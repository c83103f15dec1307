import Mathlib.Logic.Function.Basic
import SamsungIpc.EffectLayers

/-! A memory of objects of several kinds. An object is found by its address until it is freed, and no address
is given out twice; looking at an object that is not there, or freeing it, is a misuse, after which
anything may be found. -/

namespace ObjectMemory

open Effect

abbrev Address := Nat

/-- What a program may ask of the memory. -/
inductive MemoryCall {Kind : Type} (Object : Kind → Type) : Type → Type where
  | alloc (kind : Kind) (object : Object kind) : MemoryCall Object Address
  | free (kind : Kind) (address : Address) : MemoryCall Object Unit
  | load (kind : Kind) (address : Address) : MemoryCall Object (Object kind)
  | store (kind : Kind) (address : Address) (object : Object kind) : MemoryCall Object Unit

structure Memory {Kind : Type} (Object : Kind → Type) where
  content : (kind : Kind) → Address → Option (Object kind)
  next : Address
  misused : Bool

variable {Kind : Type} {Object : Kind → Type}

namespace Memory

def empty : Memory Object := ⟨fun _ _ => none, 0, false⟩

def misuse (m : Memory Object) : Memory Object := { m with misused := true }

variable [DecidableEq Kind]

def put (m : Memory Object) (kind : Kind) (address : Address) (object : Option (Object kind)) :
    Memory Object :=
  { m with
    content := Function.update m.content kind (Function.update (m.content kind) address object) }

section Put

variable {m : Memory Object} {kind other : Kind} {address place : Address}
  {object : Option (Object kind)}

@[simp] theorem content_put_self : (m.put kind address object).content kind address = object := by
  simp [put]

@[simp] theorem content_put_of_ne (hne : place ≠ address) :
    (m.put kind address object).content kind place = m.content kind place := by
  simp [put, hne]

@[simp] theorem content_put_other (hne : other ≠ kind) :
    (m.put kind address object).content other = m.content other := by
  simp [put, hne]

@[simp] theorem next_put : (m.put kind address object).next = m.next := rfl

@[simp] theorem misused_put : (m.put kind address object).misused = m.misused := rfl

end Put

def alloc (m : Memory Object) (kind : Kind) (object : Object kind) : Memory Object :=
  { m.put kind m.next (some object) with next := m.next + 1 }

def free (m : Memory Object) (kind : Kind) (address : Address) : Memory Object :=
  match m.content kind address with
  | some _ => m.put kind address none
  | none => m.misuse

def store (m : Memory Object) (kind : Kind) (address : Address) (object : Object kind) :
    Memory Object :=
  match m.content kind address with
  | some _ => m.put kind address (some object)
  | none => m.misuse

/-- `garbage` is what may be found where there is no object. -/
def load (m : Memory Object) (garbage : (kind : Kind) → Object kind) (kind : Kind) (address : Address) :
    Object kind × Memory Object :=
  match m.content kind address with
  | some object => (object, m)
  | none => (garbage kind, m.misuse)

/-- The choices are what may be found where there is no object. -/
def handler : Handler (MemoryCall Object) ((kind : Kind) → Object kind) (Memory Object)
  | _, _, .alloc kind object, m => (m.next, m.alloc kind object)
  | _, _, .free kind address, m => ((), m.free kind address)
  | _, garbage, .load kind address, m => m.load garbage kind address
  | _, _, .store kind address object, m => ((), m.store kind address object)

section Steps

variable {m : Memory Object} {kind : Kind} {address : Address} {object found : Object kind}
  {garbage : (kind : Kind) → Object kind}

theorem free_of_live (hlive : m.content kind address = some found) :
    m.free kind address = m.put kind address none := by
  simp [free, hlive]

theorem free_of_not_live (hlive : m.content kind address = none) :
    (m.free kind address).misused = true := by
  simp [free, hlive, misuse]

theorem store_of_live (hlive : m.content kind address = some found) :
    m.store kind address object = m.put kind address (some object) := by
  simp [store, hlive]

theorem store_of_not_live (hlive : m.content kind address = none) :
    (m.store kind address object).misused = true := by
  simp [store, hlive, misuse]

omit [DecidableEq Kind] in
theorem load_of_live (hlive : m.content kind address = some found) :
    m.load garbage kind address = (found, m) := by
  simp [load, hlive]

omit [DecidableEq Kind] in
theorem load_of_not_live (hlive : m.content kind address = none) :
    (m.load garbage kind address).2.misused = true := by
  simp [load, hlive, misuse]

/-- A misuse is never forgotten. -/
theorem misused_handler {β : Type} (request : MemoryCall Object β) (hmisused : m.misused = true) :
    (handler β garbage request m).2.misused = true := by
  cases request with
  | alloc kind object => exact hmisused
  | free kind address =>
      change (m.free kind address).misused = true
      unfold free
      cases m.content kind address with
      | none => rfl
      | some found => exact hmisused
  | load kind address =>
      change (m.load garbage kind address).2.misused = true
      unfold load
      cases m.content kind address with
      | none => rfl
      | some found => exact hmisused
  | store kind address object =>
      change (m.store kind address object).misused = true
      unfold store
      cases m.content kind address with
      | none => rfl
      | some found => exact hmisused

end Steps

end Memory

end ObjectMemory
