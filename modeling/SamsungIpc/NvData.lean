import SamsungIpc.CStrings
import SamsungIpc.FileTransfer

/-! The NV data functions of `rfs.c`. The modem's non-volatile data are kept in a file with a second
file that holds the MD5 digest of the data and a secret, in hex, and both have a backup. A result of
type `Int` is the function's return code, and `none` stands for `NULL`. -/

namespace SamsungIpc

open Sys

/-- `struct ipc_client_nv_data_specs`. -/
structure IpcClientNvDataSpecs where
  nvDataPath : Option Path
  nvDataMd5Path : Option Path
  nvDataBackupPath : Option Path
  nvDataBackupMd5Path : Option Path
  nvDataSecret : Option CString
  nvDataSize : Nat
  nvDataChunkSize : Nat

/-- The part of `struct ipc_client` the NV data functions read. -/
structure IpcClient where
  nvDataSpecs : Option IpcClientNvDataSpecs

section Accessors

variable (client : Option IpcClient)

def ipcClientNvDataPath : Option Path := (client.bind (·.nvDataSpecs)).bind (·.nvDataPath)

def ipcClientNvDataMd5Path : Option Path := (client.bind (·.nvDataSpecs)).bind (·.nvDataMd5Path)

def ipcClientNvDataBackupPath : Option Path :=
  (client.bind (·.nvDataSpecs)).bind (·.nvDataBackupPath)

def ipcClientNvDataBackupMd5Path : Option Path :=
  (client.bind (·.nvDataSpecs)).bind (·.nvDataBackupMd5Path)

def ipcClientNvDataSecret : Option CString := (client.bind (·.nvDataSpecs)).bind (·.nvDataSecret)

def ipcClientNvDataSize : Nat := ((client.bind (·.nvDataSpecs)).map (·.nvDataSize)).getD 0

def ipcClientNvDataChunkSize : Nat :=
  ((client.bind (·.nvDataSpecs)).map (·.nvDataChunkSize)).getD 0

end Accessors

def md5DigestLength : Nat := 16

def md5DigestLengthAscii : Nat := 2 * md5DigestLength

abbrev Digest := { bytes : Bytes // bytes.length = md5DigestLength }

/-- What the library is built for and with: the data model, and the MD5 of its crypto library. -/
structure Platform where
  abi : Abi
  md5 : Bytes → Digest

/-- Whether there is a file at `path` and it has exactly `size` bytes. -/
def nvDataSizeCheck (path : Option Path) (size : Nat) : Sys Int :=
  match path with
  | none => pure (-1)
  | some path =>
      if size = 0 then pure (-1)
      else do
        match ← stat path with
        | .error _ => pure (-1)
        | .ok stSize => if stSize ≠ size then pure (-1) else pure 0

-- A `NULL` client has no paths, so its own test needs no branch here or below.

def ipcNvDataPathCheck (client : Option IpcClient) : Sys Int :=
  nvDataSizeCheck (ipcClientNvDataPath client) (ipcClientNvDataSize client)

def ipcNvDataMd5PathCheck (client : Option IpcClient) : Sys Int :=
  nvDataSizeCheck (ipcClientNvDataMd5Path client) md5DigestLengthAscii

def ipcNvDataBackupPathCheck (client : Option IpcClient) : Sys Int :=
  nvDataSizeCheck (ipcClientNvDataBackupPath client) (ipcClientNvDataSize client)

def ipcNvDataBackupMd5PathCheck (client : Option IpcClient) : Sys Int :=
  nvDataSizeCheck (ipcClientNvDataBackupMd5Path client) md5DigestLengthAscii

section Digested

variable (platform : Platform)

def ipcNvDataMd5Calculate (path : Path) (secret : Option CString) (size chunkSize : Nat) :
    Sys (Option CString) :=
  match secret with
  | none => pure none
  | some secret => do
      match ← stat path with
      | .error _ => pure none
      | .ok stSize =>
          if stSize ≠ size then pure none
          else do
            match ← fileDataRead platform.abi (some path) size chunkSize 0 with
            | none => pure none
            | some data =>
                let md5Hash := platform.md5 (data ++ secret)
                pure (data2string (some md5Hash.val))

/-- The check of one data file and its digest file, with the checks of their sizes. -/
def nvDataDigestCheck (path md5Path : Option Path) (secret : Option CString) (size chunkSize : Nat)
    (pathCheck md5PathCheck : Sys Int) : Sys Int :=
  match path, md5Path, secret with
  | some path, some md5Path, some secret =>
      if size = 0 ∨ chunkSize = 0 then pure (-1)
      else do
        let rc ← pathCheck
        if rc < 0 then pure (-1)
        else do
          let rc ← md5PathCheck
          if rc < 0 then pure (-1)
          else do
            match ← ipcNvDataMd5Calculate platform path (some secret) size chunkSize with
            | none => pure (-1)
            | some md5String =>
                let length := md5String.length
                match ← fileDataRead platform.abi (some md5Path) length length 0 with
                | none => pure (-1)
                | some buffer =>
                    let string := strndup buffer length
                    if strncmp md5String string length ≠ 0 then pure (-1) else pure 0
  | _, _, _ => pure (-1)

def ipcNvDataCheck (client : Option IpcClient) : Sys Int :=
  nvDataDigestCheck platform (ipcClientNvDataPath client) (ipcClientNvDataMd5Path client)
    (ipcClientNvDataSecret client) (ipcClientNvDataSize client) (ipcClientNvDataChunkSize client)
    (ipcNvDataPathCheck client) (ipcNvDataMd5PathCheck client)

def ipcNvDataBackupCheck (client : Option IpcClient) : Sys Int :=
  nvDataDigestCheck platform (ipcClientNvDataBackupPath client) (ipcClientNvDataBackupMd5Path client)
    (ipcClientNvDataSecret client) (ipcClientNvDataSize client) (ipcClientNvDataChunkSize client)
    (ipcNvDataBackupPathCheck client) (ipcNvDataBackupMd5PathCheck client)

def ipcNvDataBackup (client : Option IpcClient) : Sys Int :=
  let size := ipcClientNvDataSize client
  let chunkSize := ipcClientNvDataChunkSize client
  match ipcClientNvDataPath client, ipcClientNvDataBackupPath client,
    ipcClientNvDataBackupMd5Path client, ipcClientNvDataSecret client with
  | some path, some backupPath, some backupMd5Path, some secret =>
      if size = 0 ∨ chunkSize = 0 then pure (-1)
      else do
        let rc ← ipcNvDataPathCheck client
        if rc < 0 then pure (-1)
        else do
          match ← fileDataRead platform.abi (some path) size chunkSize 0 with
          | none => pure (-1)
          | some data =>
              match ← ipcNvDataMd5Calculate platform path (some secret) size chunkSize with
              | none => pure (-1)
              | some md5String => do
                  let length := md5String.length
                  let _ ← unlink backupPath
                  match ← fileDataWrite platform.abi (some backupPath) (some data) chunkSize 0 with
                  | .error _ => pure (-1)
                  | .ok _ => do
                      let _ ← unlink backupMd5Path
                      match ← fileDataWrite platform.abi (some backupMd5Path) (some md5String)
                          length 0 with
                      | .error _ => pure (-1)
                      | .ok _ => pure 0
  | _, _, _, _ => pure (-1)

def ipcNvDataRestore (client : Option IpcClient) : Sys Int :=
  let size := ipcClientNvDataSize client
  let chunkSize := ipcClientNvDataChunkSize client
  match ipcClientNvDataPath client, ipcClientNvDataMd5Path client, ipcClientNvDataBackupPath client,
    ipcClientNvDataBackupMd5Path client, ipcClientNvDataSecret client with
  | some path, some md5Path, some backupPath, some backupMd5Path, some _ =>
      if size = 0 ∨ chunkSize = 0 then pure (-1)
      else do
        let rc ← ipcNvDataBackupCheck platform client
        if rc < 0 then pure (-1)
        else do
          match ← fileDataRead platform.abi (some backupPath) size chunkSize 0 with
          | none => pure (-1)
          | some data => do
              let _ ← unlink path
              match ← fileDataWrite platform.abi (some path) (some data) chunkSize 0 with
              | .error _ => pure (-1)
              | .ok _ =>
                  let length := md5DigestLengthAscii
                  match ← fileDataRead platform.abi (some backupMd5Path) length length 0 with
                  | none => pure (-1)
                  | some data => do
                      let _ ← unlink md5Path
                      match ← fileDataWrite platform.abi (some md5Path) (some data) length 0 with
                      | .error _ => pure (-1)
                      | .ok _ => pure 0
  | _, _, _, _, _ => pure (-1)

/-- The second half of `ipc_nv_data_load`, once the primary data have passed their check. -/
def ipcNvDataLoadChecked (client : Option IpcClient) (path : Path) : Sys (Option Bytes) := do
  let rc ← ipcNvDataBackupPathCheck client
  if rc < 0 then do
    let _ ← ipcNvDataBackup platform client
    fileDataRead platform.abi (some path) (ipcClientNvDataSize client)
      (ipcClientNvDataChunkSize client) 0
  else
    fileDataRead platform.abi (some path) (ipcClientNvDataSize client)
      (ipcClientNvDataChunkSize client) 0

def ipcNvDataLoad (client : Option IpcClient) : Sys (Option Bytes) :=
  match ipcClientNvDataPath client with
  | none => pure none
  | some path =>
      if ipcClientNvDataSize client = 0 ∨ ipcClientNvDataChunkSize client = 0 then pure none
      else do
        let rc ← ipcNvDataCheck platform client
        if rc < 0 then do
          let rc ← ipcNvDataRestore platform client
          if rc < 0 then pure none
          else do
            let rc ← ipcNvDataCheck platform client
            if rc < 0 then pure none
            else ipcNvDataLoadChecked platform client path
        else ipcNvDataLoadChecked platform client path

def ipcNvDataRead (client : Option IpcClient) (size : Nat) (offset : UInt32) : Sys (Option Bytes) :=
  let chunkSize := ipcClientNvDataChunkSize client
  match ipcClientNvDataPath client with
  | none => pure none
  | some path =>
      if chunkSize = 0 then pure none
      else do
        let rc ← ipcNvDataPathCheck client
        if rc < 0 then pure none
        else
          fileDataRead platform.abi (some path) size
            (if chunkSize > size then size else chunkSize) offset

/-- `data` is `none` for `NULL`; otherwise its length is the argument `size`. -/
def ipcNvDataWrite (client : Option IpcClient) (data : Option Bytes) (offset : UInt32) : Sys Int :=
  let chunkSize := ipcClientNvDataChunkSize client
  let size := (data.getD []).length
  match ipcClientNvDataPath client, ipcClientNvDataMd5Path client, ipcClientNvDataSecret client with
  | some path, some md5Path, some secret =>
      if chunkSize = 0 then pure (-1)
      else do
        let rc ← ipcNvDataPathCheck client
        if rc < 0 then pure (-1)
        else do
          match ← fileDataWrite platform.abi (some path) data
              (if chunkSize > size then size else chunkSize) offset with
          | .error _ => pure (-1)
          | .ok _ =>
              let size := ipcClientNvDataSize client
              if size = 0 then pure (-1)
              else do
                match ← ipcNvDataMd5Calculate platform path (some secret) size chunkSize with
                | none => pure (-1)
                | some md5String =>
                    let length := md5String.length
                    match ← unlink md5Path with
                    | .error _ => pure (-1)
                    | .ok _ => do
                        match ← fileDataWrite platform.abi (some md5Path) (some md5String)
                            length 0 with
                        | .error _ => pure (-1)
                        | .ok _ => pure 0
  | _, _, _ => pure (-1)

end Digested

/-- A client with complete NV data settings: four different paths and a chunk that is no larger than
the data. -/
structure NvConfig where
  path : Path
  md5Path : Path
  backupPath : Path
  backupMd5Path : Path
  secret : CString
  size : Nat
  chunkSize : Nat
  paths_distinct : [path, md5Path, backupPath, backupMd5Path].Nodup
  chunkSize_pos : 0 < chunkSize
  chunkSize_le : chunkSize ≤ size
  /-- An `off_t` of 32 bits holds every offset. -/
  size_lt : size < 2 ^ 31

namespace NvConfig

def client (cfg : NvConfig) : Option IpcClient :=
  some ⟨some ⟨cfg.path, cfg.md5Path, cfg.backupPath, cfg.backupMd5Path, cfg.secret, cfg.size,
    cfg.chunkSize⟩⟩

end NvConfig

def xmm626NvDataSize : Nat := 0x200000

def xmm626NvDataChunkSize : Nat := 0x1000

/-- The settings of every supported device: the XMM616 and the XMM626 ones are the same. -/
def xmm626NvConfig : NvConfig where
  path := cString "/efs/nv_data.bin"
  md5Path := cString "/efs/nv_data.bin.md5"
  backupPath := cString "/efs/.nv_data.bak"
  backupMd5Path := cString "/efs/.nv_data.bak.md5"
  secret := cString "Samsung_Android_RIL"
  size := xmm626NvDataSize
  chunkSize := xmm626NvDataChunkSize
  paths_distinct := by decide
  chunkSize_pos := by decide
  chunkSize_le := by decide
  size_lt := by decide

end SamsungIpc
