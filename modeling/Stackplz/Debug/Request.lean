import Stackplz.Abi

/-!
# Validating and encoding a breakpoint request

`spz_debug_validate_request`: which requests are accepted, and what an accepted one programs into
the value and control registers of a slot.
-/

namespace Spz

open Errno

def debugPrivilegeEl0 : U32 := 2#32 <<< 1

def debugLscLoad : U32 := 1#32 <<< 3

def debugLscStore : U32 := 2#32 <<< 3

/-- The out parameters of `spz_debug_validate_request`. -/
structure Encoding where
  value : U64
  control : U32
  bas : U8
deriving DecidableEq

/-- The control word for a byte mask and a load/store field. -/
def encodeControl (bas : U8) (lsc : U32) : U32 :=
  bas.setWidth 32 <<< 5 ||| lsc ||| debugPrivilegeEl0 ||| ctrlEnable

/-- The load/store field of a watch kind. -/
def watchLsc (kind : BreakKind) : U32 :=
  if kind = .read then debugLscLoad
  else if kind = .write then debugLscStore
  else debugLscLoad ||| debugLscStore

/-- The byte mask of a watch request, computed in 32 bits and cut to 8 as in the source. -/
def watchByteMask (request : DebugRequest) : U8 :=
  (((1#32 <<< request.length.toNat) - 1#32) <<< (request.address &&& 7#64).toNat).setWidth 8

def debugValidateRequest (request : DebugRequest) : Except Errno Encoding :=
  if request.id = 0 then .error EINVAL
  else if request.mode ≠ .once ∧ request.mode ≠ .repeat then .error EINVAL
  else if request.address = 0 ∨ request.address >>> 56 ≠ 0 then .error EINVAL
  else if request.kind = .execute then
    if request.length ≠ 4 ∨ request.address &&& 3 ≠ 0 then .error EINVAL
    else .ok ⟨request.address, encodeControl 0x0f 0, 0x0f⟩
  else if request.kind ≠ .read ∧ request.kind ≠ .write ∧ request.kind ≠ .readWrite then
    .error EINVAL
  else if request.length ≠ 1 ∧ request.length ≠ 2 ∧ request.length ≠ 4 ∧ request.length ≠ 8 then
    .error EINVAL
  else
    let last := request.address + request.length.setWidth 64 - 1
    if last < request.address ∨ request.address >>> 3 ≠ last >>> 3 then .error EINVAL
    else
      .ok ⟨request.address &&& ~~~7#64,
        encodeControl (watchByteMask request) (watchLsc request.kind), watchByteMask request⟩

def requestSlotKind (request : DebugRequest) : SlotKind :=
  if request.kind = .execute then .breakpoint else .watchpoint

end Spz
