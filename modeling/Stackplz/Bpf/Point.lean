import Mathlib.Data.List.Basic
import Stackplz.Bpf.ArgType

/-!
# The program of a point

`OpManager` of `user/argtype/op_helper.go` gives every operation a key, `AddPointArg` of
`user/config/iconfig.go` writes the keys of the arguments' operations one behind the other into the
list of a point, and `update_op_list` loads the operations under their keys.  `loaded_program` is
what comes of it: `read_args` fetches the operations of the arguments in order, and `OP_SKIP` after
them.

The name of an operation, which `SameAs` compares too, is left out: operations that differ in
nothing else would have two keys for one meaning.
-/

namespace Spz.Bpf

open List

/-! ## Keys -/

/-- `OpManager`.  `OPC_SKIP` is registered before all others, and `op_list` has 256 entries. -/
structure OpTable where
  ops : List OpConfig
  first : ops.head? = some skipOp
  short : ops.length ≤ 256

namespace OpTable

section

variable (table : OpTable)

/-- The key of an operation: its place in the table. -/
def key (op : OpConfig) : U32 := BitVec.ofNat 32 (table.ops.idxOf op)

/-- `AddOp`: the operation is in the table, or is put behind it; `none` if `op_list` cannot hold
it. -/
def addOp (op : OpConfig) : Option OpTable :=
  if op ∈ table.ops then some table
  else if h : table.ops.length < 256 then
    some { ops := table.ops ++ [op]
           first := by
            rw [List.head?_append, table.first]
            rfl
           short := by
            rw [length_append]
            exact h }
  else none

/-- `AddOp` for the operations of a point. -/
def addOps (ops : List OpConfig) : Option OpTable := ops.foldlM addOp table

/-- `update_op_list`. -/
def opList (key : U32) : Option OpConfig := table.ops[key.toNat]?

end

variable {table table' : OpTable} {op : OpConfig}

lemma opList_key (h : op ∈ table.ops) : table.opList (table.key op) = some op := by
  have hlt : table.ops.idxOf op < table.ops.length := idxOf_lt_length_of_mem h
  have hkey : (table.key op).toNat = table.ops.idxOf op := by
    rw [key, BitVec.toNat_ofNat]
    exact Nat.mod_eq_of_lt (lt_of_lt_of_le hlt (table.short.trans (by decide)))
  rw [opList, hkey, List.getElem?_eq_getElem hlt, getElem_idxOf]

lemma opList_zero : table.opList 0 = some skipOp := by
  rw [opList, show (0 : U32).toNat = 0 from rfl, ← List.head?_eq_getElem?, table.first]

end OpTable

/-! ## Points -/

/-- `STACK_MAX_OP_COUNT` and `SYSCALL_MAX_OP_COUNT`. -/
inductive PointKind
  | uprobe
  | syscall
deriving DecidableEq, Repr

def PointKind.maxOpCount : PointKind → ℕ
  | .uprobe => 64
  | .syscall => 256

/-- One turn of the loop of `AddPointArg`: a list that is full panics. -/
def addKey (maxOp : ℕ) (keys : List U32) (key : U32) : Option (List U32) :=
  if keys.length + 1 = maxOp then none else some (keys ++ [key])

def addPointArg (table : OpTable) (maxOp : ℕ) (keys : List U32) (arg : PointArg) :
    Option (List U32) :=
  (arg.getOpList.map table.key).foldlM (addKey maxOp) keys

/-- `GetConfig` of a point, once all operations have their keys: the list of the keys, and zeros
behind it. -/
def getConfig (table : OpTable) (maxOp : ℕ) (args : List PointArg) : Option PointArgs :=
  (args.foldlM (addPointArg table maxOp) []).map fun keys =>
    { maxOp := maxOp, opKeyList := keys ++ List.replicate (maxOp - keys.length) 0 }

section

variable (args : List PointArg)

/-- The program of a list of arguments, with its loops. -/
def argsCode : List Block := args.flatMap PointArg.code

def argsOps : List OpConfig := args.flatMap PointArg.getOpList

lemma codeOps_argsCode : codeOps (argsCode args) = argsOps args := by
  induction args with
  | nil => rfl
  | cons arg args ih =>
    rw [argsCode, flatMap_cons, codeOps_append]
    exact congrArg _ ih

end

variable {table : OpTable} {maxOp : ℕ} {args : List PointArg} {p : PointArgs} {m : Machine}

lemma addKeys_iff {new keys keys' : List U32} (h : keys.length < maxOp) :
    new.foldlM (addKey maxOp) keys = some keys' ↔
      keys' = keys ++ new ∧ (keys ++ new).length < maxOp := by
  induction new generalizing keys with
  | nil =>
    simp only [foldlM_nil, append_nil]
    exact ⟨fun heq => ⟨(Option.some.inj heq).symm, h⟩, fun heq => by rw [heq.1]; rfl⟩
  | cons key new ih =>
    rw [foldlM_cons, addKey]
    split_ifs with hfull
    · refine iff_of_false (by simp) fun hlt => ?_
      have := hlt.2
      rw [length_append, length_cons] at this
      omega
    · rw [Option.bind_eq_bind, Option.bind_some, ih (by rw [length_append]; simp; omega),
        append_assoc, singleton_append]

/-- The keys of the arguments are appended as long as they fit. -/
lemma addArgs_iff {keys keys' : List U32} (h : keys.length < maxOp) :
    args.foldlM (addPointArg table maxOp) keys = some keys' ↔
      keys' = keys ++ (argsOps args).map table.key ∧
        (keys ++ (argsOps args).map table.key).length < maxOp := by
  induction args generalizing keys with
  | nil =>
    simp only [foldlM_nil, argsOps, flatMap_nil, map_nil, append_nil]
    exact ⟨fun heq => ⟨(Option.some.inj heq).symm, h⟩, fun heq => by rw [heq.1]; rfl⟩
  | cons arg args ih =>
    have happend : keys ++ (argsOps (arg :: args)).map table.key =
        keys ++ arg.getOpList.map table.key ++ (argsOps args).map table.key := by
      rw [argsOps, flatMap_cons, map_append, append_assoc]
      rfl
    rw [foldlM_cons, Option.bind_eq_bind, Option.bind_eq_some_iff, happend]
    constructor
    · rintro ⟨middle, harg, hargs⟩
      obtain ⟨rfl, hlt⟩ := (addKeys_iff h).mp harg
      exact (ih hlt).mp hargs
    · rintro ⟨heq, hlt⟩
      have hmiddle : (keys ++ arg.getOpList.map table.key).length < maxOp :=
        lt_of_le_of_lt (by rw [length_append, length_append]; simp only [length_append]; omega) hlt
      exact ⟨_, (addKeys_iff h).mpr ⟨rfl, hmiddle⟩, (ih hmiddle).mpr ⟨heq, hlt⟩⟩

lemma getConfig_iff (h : 0 < maxOp) :
    getConfig table maxOp args = some p ↔ (argsOps args).length < maxOp ∧
      p = { maxOp := maxOp
            opKeyList := (argsOps args).map table.key ++
              List.replicate (maxOp - (argsOps args).length) 0 } := by
  rw [getConfig, Option.map_eq_some_iff]
  simp only [addArgs_iff (show ([] : List U32).length < maxOp from h), nil_append, length_map]
  constructor
  · rintro ⟨keys, ⟨rfl, hlt⟩, rfl⟩
    exact ⟨hlt, by rw [length_map]⟩
  · rintro ⟨hlt, rfl⟩
    exact ⟨_, ⟨rfl, hlt⟩, by rw [length_map]⟩

/-- The program of an accepted point is loaded. -/
theorem loaded_program (hpos : 0 < maxOp) (htable : ∀ op ∈ argsOps args, op ∈ table.ops)
    (hconfig : getConfig table maxOp args = some p) (hops : m.opList = table.opList) :
    Loaded m p (argsOps args) := by
  obtain ⟨hlt, rfl⟩ := (getConfig_iff hpos).mp hconfig
  refine ⟨hlt, ?_, ?_, by rw [hops, OpTable.opList_zero]⟩
  · intro i op hop
    have hi : i < (argsOps args).length := (List.getElem?_eq_some_iff.mp hop).1
    rw [hops, getD_eq_getElem?_getD, List.getElem?_append_left (by simpa using hi),
      List.getElem?_map, hop]
    exact OpTable.opList_key (htable op (mem_of_getElem? hop))
  · rw [hops, getD_eq_getElem?_getD, List.getElem?_append_right (by simp), length_map,
      Nat.sub_self, List.getElem?_replicate, if_pos (by simpa using hlt)]
    exact OpTable.opList_zero

/-! ## A machine for a list of arguments -/

def baseTable : OpTable := ⟨[skipOp], rfl, by decide⟩

/-- The table with the operations of the arguments. -/
def argsTable (args : List PointArg) : OpTable := (baseTable.addOps (argsOps args)).getD baseTable

/-- What `read_args` works on for a point with the arguments. -/
def argsMachine (args : List PointArg) (argFilter : U64 → Option ArgFilter) (regs : ℕ → U64)
    (memory : Memory) : Machine :=
  { opList := (argsTable args).opList, argFilter := argFilter, regs := regs, memory := memory }

def argsPoint (maxOp : ℕ) (args : List PointArg) : PointArgs :=
  (getConfig (argsTable args) maxOp args).getD ⟨maxOp, []⟩

lemma loaded_args {argFilter : U64 → Option ArgFilter} {regs : ℕ → U64} {memory : Memory}
    (hlen : (argsOps args).length < maxOp)
    (htable : ∀ op ∈ argsOps args, op ∈ (argsTable args).ops) :
    Loaded (argsMachine args argFilter regs memory) (argsPoint maxOp args) (argsOps args) := by
  have hconfig := (@getConfig_iff (argsTable args) _ _ _ (Nat.zero_lt_of_lt hlen)).mpr ⟨hlen, rfl⟩
  have hpoint : getConfig (argsTable args) maxOp args = some (argsPoint maxOp args) := by
    rw [argsPoint, hconfig]
    rfl
  exact loaded_program (Nat.zero_lt_of_lt hlen) htable hpoint rfl

end Spz.Bpf
