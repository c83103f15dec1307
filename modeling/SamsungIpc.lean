import SamsungIpc.NvArray
import SamsungIpc.NvCrash
import SamsungIpc.ImeiStorage
import SamsungIpc.FrameRoundTrip
import SamsungIpc.MessageExtract
import SamsungIpc.ListExtract
import SamsungIpc.ModemStates
import SamsungIpc.ModemBuffers
import SamsungIpc.FlashTransfer
import SamsungIpc.HerolteReport
import SamsungIpc.FirmwareUpload
import SamsungIpc.FrameEnd
import SamsungIpc.FileChunks
import SamsungIpc.ListWalk
import SamsungIpc.TextExtract
import SamsungIpc.PollDescriptors
import SamsungIpc.MessageSetup
import SamsungIpc.HexConversion
import SamsungIpc.ImeiFailure
import SamsungIpc.CommandOptions
import SamsungIpc.ImeiSearch
import SamsungIpc.ImeiExitStatus
import SamsungIpc.DumpBounds
import SamsungIpc.UploadExact
import SamsungIpc.BootDescriptors
import SamsungIpc.BootReturns
import SamsungIpc.IpcModemRun
import SamsungIpc.ToolLifetimes
import SamsungIpc.HostCalls
import SamsungIpc.Xmm616Boots
import SamsungIpc.Xmm616Process
import SamsungIpc.Xmm616Stages
import SamsungIpc.Xmm616Loading
import SamsungIpc.AriesLoading
import SamsungIpc.EffectChances
import SamsungIpc.Xmm616Chances
