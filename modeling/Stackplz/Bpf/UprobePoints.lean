import Stackplz.Bpf.FileConfig
import Stackplz.Bpf.Uprobe

/-!
# The list of uprobe points

`StackUprobeConfig` of `user/config/config_module.go`: `Parse_FileConfig` and `Parse_HookPoint`
append points to one list, `Parse_HookPoint` appends exit points behind them, and `GetSyscall` takes
the points away that are bound to a system call.  Three others count on a point's `Index` being its
place in the list: `setupManager` attaches program `i` to point `i`, `update_stack_config` enters a
point under its index, and `ParseContext` takes the point at the index that program `i` reports.

Both parsers count from zero, whatever is in the list, and nothing counts the exit points.
`points_keep_identity` says that everything fits together as long as points are added to an empty
list, with their exit points there are no more than six, and the bound points stand behind the
others.
-/

namespace Spz.Bpf

open List Option

/-- The number of the programs `probe_stack_0` to `probe_stack_5`. -/
def probeCount : ℕ := 6

/-- `UprobeArgs`, with what only the texts of hook points set. -/
structure HookPoint extends UprobeArgs where
  enterKey : U32 := 0
  bindSyscall : Bool := false
  exitRead : Bool := false
  exitOffset : U64 := 0
  /-- Not in the source: which of all texts and points of files this point was made from. -/
  origin : ℕ
  /-- Not in the source: the point was made by `GetExitPoint`. -/
  isExit : Bool := false

namespace HookPoint

/-- `GetExitPoint`, the point that it returns. -/
def getExitPoint (point : HookPoint) (index : ℕ) : HookPoint where
  index := BitVec.ofNat 32 index
  enterKey := point.index + 1
  name := ascii "0x" ++ Numerals.numeral 16 point.exitOffset.toNat
  symbol := []
  offset := point.exitOffset
  killSignal := point.killSignal
  pointArgs := point.pointArgs
  origin := point.origin
  isExit := true

/-- What `GetExitPoint` leaves in the point that it is called on. -/
def marked (point : HookPoint) : HookPoint :=
  if point.exitOffset ≠ 0 then { point with enterKey := point.index + 1 } else point

/-- `GetConfig`, without the signal. -/
def getConfig (table : OpTable) (point : HookPoint) : Option UprobePoint :=
  (Bpf.getConfig table PointKind.uprobe.maxOpCount point.pointArgs).map fun args =>
    { args with enterKey := point.enterKey }

end HookPoint

/-! ## The texts of hook points -/

/-- The suffixes `]s` and `]ss`: the text without them, `exit_read` and `bind_syscall`. -/
def cutSuffix (text : List U8) : List U8 × Bool × Bool :=
  let (text, bindSyscall) :=
    if ascii "]s" <:+ text then (text.dropLast, true) else (text, false)
  if ascii "]ss" <:+ text then (text.dropLast.dropLast, true, true) else (text, false, bindSyscall)

/-- The exit offset behind the bracket, if there is one; a number that cannot be read panics. -/
def cutExit (text : List U8) : Option (List U8 × Option U64) :=
  match text.splitOn 0x5d with
  | [first, exit] =>
    if exit = [] then some (first ++ [0x5d], none)
    else (Client.parseUintAny 64 exit).map fun offset =>
      (first ++ [0x5d], some (BitVec.ofNat 64 offset))
  | _ => some (text, none)

/-- The body of the loop over the texts.  What the regular expression and `ParseArgType` make of the
rest of the text is taken as given. -/
def HookPoint.parse (grammar : List U8 → Option UprobeArgs) (origin : ℕ) (text : List U8)
    (index : ℕ) : Option HookPoint := do
  let (text, exitRead, bindSyscall) := cutSuffix text
  let (text, exit) ← cutExit text
  let args ← grammar text
  some
    { args with
      index := BitVec.ofNat 32 index
      killSignal := 0
      bindSyscall := bindSyscall
      exitRead := exitRead || exit.isSome
      exitOffset := exit.getD 0
      origin := origin }

def namesExit (text : List U8) : Bool :=
  match cutExit (cutSuffix text).1 with
  | some (_, some offset) => offset ≠ 0
  | _ => false

/-- The exit points that the second loop of `Parse_HookPoint` appends to a list of this length. -/
def exitPoints : ℕ → List HookPoint → List HookPoint
  | _, [] => []
  | length, point :: points =>
    if point.exitOffset ≠ 0 then point.getExitPoint length :: exitPoints (length + 1) points
    else exitPoints length points

/-- That loop, over all points of the list. -/
def addExitPoints (points : List HookPoint) : List HookPoint :=
  points.map HookPoint.marked ++ exitPoints points.length points

/-! ## The configuration -/

structure StackUprobeConfig where
  libPath : List U8
  points : List HookPoint
  /-- Not in the source: how many texts and points of files there were. -/
  origins : ℕ

inductive ConfigStep where
  | file (registries : ℕ → ℕ → Registries) (points : List PointConfig)
  | hooks (grammar : ℕ → List U8 → Option UprobeArgs) (texts : List (List U8))
  | syscalls (known : List U8 → Bool)

namespace StackUprobeConfig

section

variable (conf : StackUprobeConfig)

def filePoints (registries : ℕ → ℕ → Registries) (points : List PointConfig) :
    Option (List HookPoint) :=
  (parseFileConfig registries [] points).map fun new =>
    new.zipIdx.map fun (args, i) => { args with origin := conf.origins + i }

def hookPoints (grammar : ℕ → List U8 → Option UprobeArgs) (texts : List (List U8)) :
    Option (List HookPoint) :=
  texts.zipIdx.mapM fun (text, i) => HookPoint.parse (grammar i) (conf.origins + i) text i

/-- `Parse_HookPoint`; `none` is an error or a panic. -/
def parseHookPoint (grammar : ℕ → List U8 → Option UprobeArgs) (texts : List (List U8)) :
    Option StackUprobeConfig :=
  if conf.libPath = [] then none
  else if texts.length > 6 then none
  else (conf.hookPoints grammar texts).map fun new =>
    { conf with points := addExitPoints (conf.points ++ new)
                origins := conf.origins + texts.length }

/-- `GetSyscall`: `UpdateSyscallPoint` takes the bound points over, and panics if there is no system
call of that name. -/
def getSyscall (known : List U8 → Bool) : Option StackUprobeConfig :=
  if ∀ point ∈ conf.points, point.bindSyscall → known point.name then
    some { conf with points := conf.points.filter fun point => !point.bindSyscall }
  else none

def next : ConfigStep → Option StackUprobeConfig
  | .file registries points =>
    (conf.filePoints registries points).map fun new =>
      { conf with points := conf.points ++ new, origins := conf.origins + points.length }
  | .hooks grammar texts => conf.parseHookPoint grammar texts
  | .syscalls known => conf.getSyscall known

end

/-- Configurations start without points. -/
def system : Transition.System StackUprobeConfig ConfigStep :=
  .ofStep (fun conf => conf.points = []) next

end StackUprobeConfig

/-! ## Who counts on the index -/

/-- The point that `setupManager` attaches program `i` to. -/
def attachedPoint (points : List HookPoint) (i : ℕ) : Option HookPoint :=
  if i < probeCount then points[i]? else none

/-- `update_stack_config`, which panics if an update fails. -/
def updateStackConfig (table : OpTable) (points : List HookPoint) :
    Option (BoundedMap U32 UprobePoint 6) :=
  points.foldlM (fun map point => (point.getConfig table).bind (map.update point.index)) .empty

/-- The point that `ParseContext` takes; `none` is a panic. -/
def decodedPoint (points : List HookPoint) (probeIndex : U32) : Option HookPoint :=
  if (probeIndex + 1).toNat > points.length then none else points[probeIndex.toNat]?

/-- Program `i`, the entry it finds and the decoder of its events have one point. -/
def Agreeing (table : OpTable) (points : List HookPoint)
    (map : BoundedMap U32 UprobePoint 6) : Prop :=
  ∀ i < points.length, ∃ point, points[i]? = some point ∧ attachedPoint points i = some point ∧
    map.lookup (BitVec.ofNat 32 i) = point.getConfig table ∧
    decodedPoint points (BitVec.ofNat 32 i) = some point

/-- What the others count on. -/
structure KeepsIdentity (points : List HookPoint) : Prop where
  index : ∀ i point, points[i]? = some point → point.index = BitVec.ofNat 32 i
  room : points.length ≤ probeCount
  agree : ∀ table, (∀ point ∈ points, (point.getConfig table).isSome) →
    ∃ map, updateStackConfig table points = some map ∧ Agreeing table points map
  exits : ∀ exit ∈ points, exit.isExit → ∃ enter,
    points[(exit.enterKey - 1).toNat]? = some enter ∧ enter.isExit = false ∧
      enter.origin = exit.origin

/-! ## Points that were just parsed -/

/-- The points that a step appends. -/
structure Fresh (new : List HookPoint) : Prop where
  index : ∀ i point, new[i]? = some point → point.index = BitVec.ofNat 32 i
  enter : ∀ point ∈ new, point.isExit = false
  unbound : ∀ point ∈ new, point.exitOffset ≠ 0 → point.bindSyscall = false

lemma Fresh.of_getElem? {new : List HookPoint}
    (h : ∀ i point, new[i]? = some point → point.index = BitVec.ofNat 32 i ∧ point.isExit = false ∧
      (point.exitOffset ≠ 0 → point.bindSyscall = false)) : Fresh new := by
  refine ⟨fun i point hi => (h i point hi).1, ?_, ?_⟩
  · intro point hpoint
    obtain ⟨i, hi⟩ := List.getElem?_of_mem hpoint
    exact (h i point hi).2.1
  · intro point hpoint
    obtain ⟨i, hi⟩ := List.getElem?_of_mem hpoint
    exact (h i point hi).2.2

lemma cutExit_concat (text : List U8) : ∃ rest, cutExit (text ++ [0x5d]) = some (rest, none) := by
  have hsplit : (text ++ [0x5d]).splitOn 0x5d = text.splitOn 0x5d ++ [[]] := by
    rw [splitOn_append_cons_self]
    rfl
  unfold cutExit
  rw [hsplit]
  split
  next first exit hitems =>
    have hexit : exit = [] := by
      have := congrArg List.getLast? hitems
      simpa using this.symm
    rw [if_pos hexit]
    exact ⟨_, rfl⟩
  next => exact ⟨_, rfl⟩

variable {text : List U8} {point : HookPoint} {i : ℕ} {table : OpTable}

/-- What is bound to a system call ends in a bracket, once the suffix is cut. -/
lemma cutSuffix_bound (h : (cutSuffix text).2.2 = true) :
    ∃ rest, (cutSuffix text).1 = rest ++ [0x5d] := by
  unfold cutSuffix at h ⊢
  by_cases hs : ascii "]s" <:+ text
  · obtain ⟨rest, rfl⟩ := hs
    have hdrop : (rest ++ ascii "]s").dropLast = rest ++ [0x5d] := by
      rw [show ascii "]s" = [0x5d] ++ [0x73] by decide, ← append_assoc, dropLast_concat]
    have hss : ¬ ascii "]ss" <:+ rest ++ [0x5d] := by
      rintro ⟨front, hfront⟩
      have := congrArg List.getLast? hfront
      rw [show ascii "]ss" = [0x5d, 0x73] ++ [0x73] by decide, ← append_assoc,
        List.getLast?_concat, List.getLast?_concat] at this
      exact absurd this (by decide)
    simp only [suffix_append, if_true, hdrop, if_neg hss]
    exact ⟨rest, rfl⟩
  · simp only [if_neg hs] at h ⊢
    by_cases hss : ascii "]ss" <:+ text
    · obtain ⟨rest, rfl⟩ := hss
      simp only [suffix_append, if_true]
      refine ⟨rest, ?_⟩
      rw [show ascii "]ss" = [0x5d] ++ [0x73] ++ [0x73] by decide, ← append_assoc,
        ← append_assoc, dropLast_concat, dropLast_concat]
    · simp [hss] at h

lemma parse_spec {grammar : List U8 → Option UprobeArgs} {origin index : ℕ}
    (h : HookPoint.parse grammar origin text index = some point) :
    point.index = BitVec.ofNat 32 index ∧ point.isExit = false ∧
      (point.exitOffset ≠ 0 → point.bindSyscall = false) ∧
      decide (point.exitOffset ≠ 0) = namesExit text := by
  simp only [HookPoint.parse, bind_eq_bind, bind_eq_some_iff, Option.some.injEq] at h
  obtain ⟨⟨rest, exit⟩, hexit, args, -, rfl⟩ := h
  refine ⟨rfl, rfl, ?_, ?_⟩
  · intro hoffset
    rw [← Bool.not_eq_true]
    intro hbound
    obtain ⟨front, hfront⟩ := cutSuffix_bound hbound
    obtain ⟨rest', hrest⟩ := cutExit_concat front
    rw [hfront, hrest] at hexit
    cases hexit
    exact hoffset rfl
  · rw [namesExit, hexit]
    cases exit with
    | none => rfl
    | some offset => rfl

lemma mapM_zipIdx_getElem? {α β : Type} {f : α → ℕ → Option β} {l : List α} {r : List β}
    (h : (l.zipIdx.mapM fun x => f x.1 x.2) = some r) {y : β} (hi : r[i]? = some y) :
    ∃ x, l[i]? = some x ∧ f x i = some y := by
  have hlt : i < l.length := by
    rw [← length_zipIdx (l := l), ← mapM_length h]
    exact (List.getElem?_eq_some_iff.mp hi).1
  have hzip : l.zipIdx[i]? = some (l.get ⟨i, hlt⟩, i) := by simp [hlt]
  obtain ⟨y', hy', hf⟩ := mapM_getElem? h hzip
  obtain rfl : y' = y := Option.some.inj (hy'.symm.trans hi)
  exact ⟨_, by simp [hlt], hf⟩

lemma mapM_countP {α β : Type} {f : α → Option β} {p : α → Bool} {q : β → Bool}
    (h : ∀ a b, f a = some b → q b = p a) : ∀ {l : List α} {r : List β},
    l.mapM f = some r → r.countP q = l.countP p := by
  intro l
  induction l with
  | nil =>
    intro r hr
    cases hr
    rfl
  | cons a l ih =>
    intro r hr
    simp only [mapM_cons, Option.bind_eq_bind, Option.bind_eq_some_iff, Option.pure_def,
      Option.some.injEq] at hr
    obtain ⟨b, hb, bs, hbs, rfl⟩ := hr
    rw [countP_cons, countP_cons, ih hbs, h a b hb]

namespace StackUprobeConfig

variable {conf conf' : StackUprobeConfig} {new : List HookPoint}

lemma hookPoints_spec {grammar : ℕ → List U8 → Option UprobeArgs} {texts : List (List U8)}
    (h : conf.hookPoints grammar texts = some new) :
    Fresh new ∧ new.length = texts.length ∧
      new.countP (·.exitOffset ≠ 0) = texts.countP namesExit := by
  have hlength : new.length = texts.length := by
    rw [mapM_length h, length_zipIdx]
  refine ⟨.of_getElem? ?_, hlength, ?_⟩
  · intro i point hi
    obtain ⟨text, -, hparse⟩ := mapM_zipIdx_getElem?
      (f := fun text i => HookPoint.parse (grammar i) (conf.origins + i) text i) h hi
    obtain ⟨hindex, hexit, hunbound, -⟩ := parse_spec hparse
    exact ⟨hindex, hexit, hunbound⟩
  · have hcount := mapM_countP (p := namesExit ∘ Prod.fst)
      (fun _ point hpoint => (parse_spec hpoint).2.2.2) h
    rw [hcount, ← countP_map, zipIdx_map_fst]

lemma filePoints_spec {registries : ℕ → ℕ → Registries} {points : List PointConfig}
    (h : conf.filePoints registries points = some new) :
    Fresh new ∧ new.length = points.length := by
  simp only [filePoints, parseFileConfig, nil_append, Option.map_id', map_eq_some_iff] at h
  obtain ⟨base, hbase, rfl⟩ := h
  have hlength : base.length = points.length := by
    rw [mapM_length hbase, length_zipIdx]
  refine ⟨.of_getElem? ?_, ?_⟩
  · intro i point hi
    rw [List.getElem?_map, List.getElem?_zipIdx, Option.map_map, Option.map_eq_some_iff] at hi
    obtain ⟨args, hargs, rfl⟩ := hi
    obtain ⟨config, -, hparse⟩ := mapM_zipIdx_getElem?
      (f := fun config i => PointConfig.parse (registries i) config i) hbase hargs
    simp only [PointConfig.parse, Option.bind_eq_bind, Option.bind_eq_some_iff,
      Option.some.injEq] at hparse
    obtain ⟨_, -, _, -, _, -, rfl⟩ := hparse
    exact ⟨rfl, rfl, fun h => absurd rfl h⟩
  · simp [hlength]

end StackUprobeConfig

/-! ## The list between steps -/

/-- What every step that is taken in place keeps. -/
structure Identified (points : List HookPoint) : Prop where
  index : ∀ i point, points[i]? = some point → point.index = BitVec.ofNat 32 i
  room : points.length ≤ probeCount
  exits : ∀ exit ∈ points, exit.isExit → exit.exitOffset = 0 ∧ ∃ enter,
    points[(exit.enterKey - 1).toNat]? = some enter ∧ enter.isExit = false ∧
      enter.origin = exit.origin ∧ enter.bindSyscall = false
  unbound : ∀ point ∈ points, point.exitOffset ≠ 0 → point.bindSyscall = false

variable {points new : List HookPoint}

lemma Fresh.identified (h : Fresh new) (hroom : new.length ≤ probeCount) : Identified new where
  index := h.index
  room := hroom
  exits exit hexit hisExit := by
    rw [h.enter exit hexit] at hisExit
    cases hisExit
  unbound := h.unbound

lemma Identified.append (h : Identified points) (hnew : Fresh new) (hplace : new = [] ∨ points = [])
    (hroom : points.length + new.length ≤ probeCount) : Identified (points ++ new) := by
  rcases hplace with rfl | rfl
  · rwa [append_nil]
  · rw [length_nil, Nat.zero_add] at hroom
    exact hnew.identified hroom

/-! ### Exit points -/

section Marked

variable (point)

@[simp] lemma marked_index : point.marked.index = point.index := by
  unfold HookPoint.marked
  split <;> rfl

@[simp] lemma marked_isExit : point.marked.isExit = point.isExit := by
  unfold HookPoint.marked
  split <;> rfl

@[simp] lemma marked_origin : point.marked.origin = point.origin := by
  unfold HookPoint.marked
  split <;> rfl

@[simp] lemma marked_bindSyscall : point.marked.bindSyscall = point.bindSyscall := by
  unfold HookPoint.marked
  split <;> rfl

@[simp] lemma marked_exitOffset : point.marked.exitOffset = point.exitOffset := by
  unfold HookPoint.marked
  split <;> rfl

end Marked

lemma length_exitPoints (length : ℕ) (points : List HookPoint) :
    (exitPoints length points).length = points.countP (·.exitOffset ≠ 0) := by
  induction points generalizing length with
  | nil => rfl
  | cons point points ih =>
    rw [exitPoints, countP_cons]
    split_ifs with hoffset <;> simp_all

lemma getElem?_exitPoints {length : ℕ} {exit : HookPoint}
    (h : (exitPoints length points)[i]? = some exit) :
    ∃ point ∈ points, point.exitOffset ≠ 0 ∧ exit = point.getExitPoint (length + i) := by
  induction points generalizing length i with
  | nil => cases h
  | cons point points ih =>
    rw [exitPoints] at h
    split_ifs at h with hoffset
    · cases i with
      | zero => exact ⟨point, mem_cons_self, hoffset, (Option.some.inj h).symm⟩
      | succ i =>
        obtain ⟨p, hp, hpoffset, rfl⟩ := ih h
        exact ⟨p, mem_cons_of_mem _ hp, hpoffset, by rw [Nat.add_right_comm]; rfl⟩
    · obtain ⟨p, hp, hpoffset, rfl⟩ := ih h
      exact ⟨p, mem_cons_of_mem _ hp, hpoffset, rfl⟩

lemma getElem?_addExitPoints (h : points[i]? = some point) :
    (addExitPoints points)[i]? = some point.marked := by
  rw [addExitPoints, List.getElem?_append_left]
  · rw [List.getElem?_map, h]
    rfl
  · rw [length_map]
    exact (List.getElem?_eq_some_iff.mp h).1

/-- The points with their exit points are identified, if there are numbers for all. -/
lemma Identified.addExitPoints (h : Identified points)
    (hroom : points.length + points.countP (·.exitOffset ≠ 0) ≤ probeCount) :
    Identified (addExitPoints points) where
  index i point hi := by
    rw [Bpf.addExitPoints, List.getElem?_append, length_map] at hi
    split_ifs at hi with hlt
    · rw [List.getElem?_map, map_eq_some_iff] at hi
      obtain ⟨old, hold, rfl⟩ := hi
      rw [marked_index, h.index i old hold]
    · obtain ⟨old, -, -, rfl⟩ := getElem?_exitPoints hi
      show BitVec.ofNat 32 _ = _
      congr 1
      omega
  room := by
    rw [Bpf.addExitPoints, length_append, length_map, length_exitPoints]
    exact hroom
  exits exit hexit hisExit := by
    rcases mem_append.mp hexit with hold | hnew
    · -- An exit point of before: it has no exit of its own and stays as it is.
      obtain ⟨old, hmem, rfl⟩ := mem_map.mp hold
      rw [marked_isExit] at hisExit
      obtain ⟨hoffset, enter, henter, hnotExit, horigin, hbound⟩ := h.exits old hmem hisExit
      have hsame : old.marked = old := by rw [HookPoint.marked, if_neg (not_not_intro hoffset)]
      rw [hsame]
      exact ⟨hoffset, enter.marked, getElem?_addExitPoints henter, by simpa using hnotExit,
        by simpa using horigin, by simpa using hbound⟩
    · obtain ⟨i, hi⟩ := List.getElem?_of_mem hnew
      obtain ⟨enter, hmem, hoffset, rfl⟩ := getElem?_exitPoints hi
      obtain ⟨j, hj⟩ := List.getElem?_of_mem hmem
      -- The key of the new exit is the index of its enter point and one, and that index its place.
      have hkey : ((enter.getExitPoint (points.length + i)).enterKey - 1).toNat = j := by
        have hlt := (List.getElem?_eq_some_iff.mp hj).1
        have hsix : points.length ≤ 6 := h.room
        show (enter.index + 1 - 1).toNat = j
        rw [h.index j enter hj, BitVec.add_sub_cancel, BitVec.toNat_ofNat]
        omega
      refine ⟨rfl, enter.marked, ?_, ?_, marked_origin enter, ?_⟩
      · rw [hkey]
        exact getElem?_addExitPoints hj
      · rw [marked_isExit, ← Bool.not_eq_true]
        exact fun henter => hoffset (h.exits enter hmem henter).1
      · rw [marked_bindSyscall]
        exact h.unbound enter hmem hoffset
  unbound point hpoint hoffset := by
    rcases mem_append.mp hpoint with hold | hnew
    · obtain ⟨old, hmem, rfl⟩ := mem_map.mp hold
      rw [marked_exitOffset] at hoffset
      rw [marked_bindSyscall]
      exact h.unbound old hmem hoffset
    · obtain ⟨i, hi⟩ := List.getElem?_of_mem hnew
      obtain ⟨enter, -, -, rfl⟩ := getElem?_exitPoints hi
      rfl

/-! ### Bound points -/

/-- If nothing that is kept stands behind something that is not, what is kept keeps its place. -/
lemma getElem?_filter_of_pairwise {α : Type} {p : α → Bool} {l : List α}
    (h : l.Pairwise fun x y => p y → p x) {x : α} :
    (l.filter p)[i]? = some x ↔ l[i]? = some x ∧ p x := by
  induction l generalizing i with
  | nil => simp
  | cons a l ih =>
    obtain ⟨hhead, htail⟩ := pairwise_cons.mp h
    by_cases ha : p a
    · rw [filter_cons_of_pos ha]
      cases i with
      | zero =>
        rw [List.getElem?_cons_zero, List.getElem?_cons_zero]
        refine ⟨fun hx => ⟨hx, ?_⟩, And.left⟩
        rw [← Option.some.inj hx]
        exact ha
      | succ i => exact ih htail
    · -- The head is not kept, so nothing is.
      have hnone : ∀ y ∈ a :: l, ¬ p y := by
        intro y hy hkept
        rcases mem_cons.mp hy with rfl | hy
        · exact ha hkept
        · exact ha (hhead y hy hkept)
      rw [filter_eq_nil_iff.mpr hnone]
      refine ⟨nofun, ?_⟩
      rintro ⟨hi, hx⟩
      exact absurd hx (hnone x (mem_of_getElem? hi))

/-- The points that are bound to a system call stand behind the others. -/
def BoundBehind (points : List HookPoint) : Prop :=
  points.Pairwise fun point later => !later.bindSyscall → !point.bindSyscall
deriving Decidable

lemma Identified.filter (h : Identified points) (hbehind : BoundBehind points) :
    Identified (points.filter fun point => !point.bindSyscall) where
  index i point hi := h.index i point ((getElem?_filter_of_pairwise hbehind).mp hi).1
  room := Nat.le_trans (length_filter_le ..) h.room
  exits exit hexit hisExit := by
    obtain ⟨hoffset, enter, henter, hnotExit, horigin, hbound⟩ :=
      h.exits exit (mem_of_mem_filter hexit) hisExit
    refine ⟨hoffset, enter, (getElem?_filter_of_pairwise hbehind).mpr ⟨henter, ?_⟩, hnotExit,
      horigin, hbound⟩
    rw [hbound]
    rfl
  unbound point hpoint := h.unbound point (mem_of_mem_filter hpoint)

/-! ## The entries of `uprobe_point_args` -/

lemma updateStackConfig_eq (h : ∀ point ∈ points, (point.getConfig table).isSome) :
    updateStackConfig table points = BoundedMap.empty.updates
      (points.filterMap fun point => (point.getConfig table).map (point.index, ·)) := by
  unfold updateStackConfig
  generalize (BoundedMap.empty : BoundedMap U32 UprobePoint 6) = map
  induction points generalizing map with
  | nil => rfl
  | cons point points ih =>
    obtain ⟨config, hconfig⟩ := isSome_iff_exists.mp (h point mem_cons_self)
    rw [filterMap_cons, hconfig, BoundedMap.updates, foldlM_cons, map_some, foldlM_cons, hconfig]
    congr 1
    funext map
    exact ih (fun p hp => h p (mem_cons_of_mem _ hp)) map

lemma keys_filterMap (h : ∀ point ∈ points, (point.getConfig table).isSome) :
    (points.filterMap fun point => (point.getConfig table).map (point.index, ·)).map Prod.fst =
      points.map (·.index) := by
  induction points with
  | nil => rfl
  | cons point points ih =>
    obtain ⟨config, hconfig⟩ := isSome_iff_exists.mp (h point mem_cons_self)
    rw [filterMap_cons, hconfig, map_some, map_cons, map_cons,
      ih fun p hp => h p (mem_cons_of_mem _ hp)]

namespace Identified

lemma nodup_index (h : Identified points) : (points.map (·.index)).Nodup := by
  have hindex : points.map (·.index) = (List.range points.length).map (BitVec.ofNat 32) := by
    refine ext_getElem (by simp) ?_
    intro i hi _
    rw [getElem_map, getElem_map, getElem_range]
    exact h.index i _ (List.getElem?_eq_getElem (by simpa using hi))
  rw [hindex]
  refine List.Nodup.map_on ?_ nodup_range
  intro i hi j hj hij
  have hsix : points.length ≤ 6 := h.room
  rw [mem_range] at hi hj
  have hval := congrArg BitVec.toNat hij
  rw [BitVec.toNat_ofNat, BitVec.toNat_ofNat] at hval
  omega

/-- Identified points fit the map, and the map agrees with them. -/
lemma agree (h : Identified points) {table : OpTable}
    (hconfig : ∀ point ∈ points, (point.getConfig table).isSome) :
    ∃ map, updateStackConfig table points = some map ∧ Agreeing table points map := by
  have hkeys := keys_filterMap hconfig
  have hlength := congrArg List.length hkeys
  rw [length_map, length_map] at hlength
  have hsix : points.length ≤ 6 := h.room
  have hfits : (BoundedMap.empty : BoundedMap U32 UprobePoint 6).entries.keys.length +
      (points.filterMap fun point => (point.getConfig table).map (point.index, ·)).length ≤ 6 := by
    rw [hlength]
    exact (Nat.zero_add _).le.trans hsix
  obtain ⟨map, hmap, hentries, -⟩ := BoundedMap.exists_updates (hkeys ▸ h.nodup_index) hfits
  refine ⟨map, (updateStackConfig_eq hconfig).trans hmap, ?_⟩
  intro i hi
  have hpoint : points[i]? = some (points.get ⟨i, hi⟩) := List.getElem?_eq_getElem hi
  have hmem := mem_of_getElem? hpoint
  refine ⟨_, hpoint, ?_, ?_, ?_⟩
  · rw [attachedPoint, if_pos (show i < probeCount from Nat.lt_of_lt_of_le hi h.room), hpoint]
  · obtain ⟨config, hsome⟩ := isSome_iff_exists.mp (hconfig _ hmem)
    rw [← h.index i _ hpoint, hsome]
    exact hentries (_, config) (mem_filterMap.mpr ⟨_, hmem, by rw [hsome]; rfl⟩)
  · have hval : (BitVec.ofNat 32 i).toNat = i := by
      rw [BitVec.toNat_ofNat]
      omega
    have hnext : (BitVec.ofNat 32 i + 1).toNat = i + 1 := by
      rw [BitVec.toNat_add, hval]
      exact Nat.mod_eq_of_lt (show i + 1 < 2 ^ 32 by omega)
    rw [decodedPoint, hval, hnext, if_neg (by omega), hpoint]

lemma keepsIdentity (h : Identified points) : KeepsIdentity points where
  index := h.index
  room := h.room
  agree _ := h.agree
  exits exit hexit hisExit := by
    obtain ⟨-, enter, henter, hnotExit, horigin, -⟩ := h.exits exit hexit hisExit
    exact ⟨enter, henter, hnotExit, horigin⟩

end Identified

/-! ## Runs -/

namespace StackUprobeConfig

/-- The step leaves every index at its place: points are added to an empty list only, all points and
the exit points to come fit, and the points that are taken away stand behind the others. -/
def InPlace (conf : StackUprobeConfig) : ConfigStep → Prop
  | .file _ points =>
    (points = [] ∨ conf.points = []) ∧ conf.points.length + points.length ≤ probeCount
  | .hooks _ texts =>
    (texts = [] ∨ conf.points = []) ∧
      conf.points.length + texts.length + conf.points.countP (·.exitOffset ≠ 0) +
        texts.countP namesExit ≤ probeCount
  | .syscalls _ => BoundBehind conf.points

instance (conf : StackUprobeConfig) (a : ConfigStep) : Decidable (conf.InPlace a) :=
  match a with
  | .file _ points =>
    inferInstanceAs (Decidable ((points = [] ∨ conf.points = []) ∧ _))
  | .hooks _ texts => inferInstanceAs (Decidable ((texts = [] ∨ conf.points = []) ∧ _))
  | .syscalls _ => inferInstanceAs (Decidable (BoundBehind _))

/-- A step that is taken in place keeps the points identified. -/
lemma identified_next {conf conf' : StackUprobeConfig} {a : ConfigStep} (h : Identified conf.points)
    (hplace : conf.InPlace a) (hnext : conf.next a = some conf') : Identified conf'.points := by
  cases a with
  | file registries points =>
    simp only [next, map_eq_some_iff] at hnext
    obtain ⟨new, hnew, rfl⟩ := hnext
    obtain ⟨hfresh, hlength⟩ := filePoints_spec hnew
    refine h.append hfresh (hplace.1.imp_left ?_) (hlength ▸ hplace.2)
    rintro rfl
    exact length_eq_zero_iff.mp hlength
  | hooks grammar texts =>
    simp only [next, parseHookPoint] at hnext
    split_ifs at hnext
    obtain ⟨new, hnew, rfl⟩ := map_eq_some_iff.mp hnext
    obtain ⟨hfresh, hlength, hcount⟩ := hookPoints_spec hnew
    obtain ⟨hwhere, hroom⟩ := hplace
    have hwhere' : new = [] ∨ conf.points = [] := by
      refine hwhere.imp_left ?_
      rintro rfl
      exact length_eq_zero_iff.mp hlength
    refine (h.append hfresh hwhere' (by omega)).addExitPoints ?_
    rw [length_append, countP_append]
    omega
  | syscalls known =>
    simp only [next, getSyscall] at hnext
    split_ifs at hnext
    cases hnext
    exact h.filter hplace

end StackUprobeConfig

/-- In every run whose steps are all taken in place, every point keeps its identity. -/
theorem points_keep_identity {conf : StackUprobeConfig}
    (h : (StackUprobeConfig.system.restrict StackUprobeConfig.InPlace).Reachable conf) :
    KeepsIdentity conf.points := by
  refine Identified.keepsIdentity (h.invariant (I := fun conf => Identified conf.points) ?_ ?_)
  · intro conf hinit
    rw [show conf.points = [] from hinit]
    exact Fresh.identified ⟨by simp, by simp, by simp⟩ (Nat.zero_le _)
  · rintro conf a conf' hconf ⟨hplace, hnext⟩
    exact StackUprobeConfig.identified_next hconf hplace hnext

def noPoints : StackUprobeConfig := { libPath := ascii "libc.so", points := [], origins := 0 }

/-- A text for a function without arguments, as far as the index goes. -/
def plainGrammar (_ : ℕ) (text : List U8) : Option UprobeArgs :=
  some { index := 0, name := text, symbol := text, offset := 0, killSignal := 0, pointArgs := [] }

def exitHook : ConfigStep := .hooks plainGrammar [ascii "read[int]0x40"]

theorem points_keep_identity_exit :
    let conf := Transition.runFrom
      (Transition.guarded StackUprobeConfig.InPlace StackUprobeConfig.next) noPoints
      [exitHook, .syscalls fun _ => true]
    conf.points.map (fun point => (point.index, point.enterKey, point.isExit)) =
      [(0, 1, false), (1, 1, true)] ∧ KeepsIdentity conf.points := by
  refine ⟨by decide +kernel, points_keep_identity ?_⟩
  exact .steps (.init (show noPoints.points = [] from rfl))
    (Transition.guarded_steps _ _ (by decide +kernel))

def onePointFile : ConfigStep :=
  .file (fun _ _ => ⟨fun _ => none, fun _ => none⟩) [{ name := ascii "open", params := [] }]

/-- A hook point behind a file: both points have index zero, and the key of the exit point leads to
the point of the file. -/
theorem exit_of_another_point :
    ∃ conf, StackUprobeConfig.system.Reachable conf ∧
      conf.points.map (fun point => (point.index, point.enterKey, point.origin)) =
        [(0, 0, 0), (0, 1, 1), (2, 1, 1)] ∧ ¬ KeepsIdentity conf.points := by
  have hpoints : (Transition.run StackUprobeConfig.next noPoints [onePointFile, exitHook]).map
      (fun conf => conf.points.map fun point => (point.index, point.enterKey, point.origin)) =
        some [(0, 0, 0), (0, 1, 1), (2, 1, 1)] := by
    decide +kernel
  obtain ⟨conf, hconf, hpoints⟩ := map_eq_some_iff.mp hpoints
  refine ⟨conf, Transition.run_reachable rfl _ hconf, hpoints, fun hkeeps => ?_⟩
  have hsecond := congrArg (·[1]?) hpoints
  rw [List.getElem?_map] at hsecond
  obtain ⟨point, hpoint, hindex⟩ := map_eq_some_iff.mp hsecond
  have hzero : point.index = 0 := congrArg Prod.fst hindex
  rw [hkeeps.index 1 point hpoint] at hzero
  exact absurd hzero (by decide)

end Spz.Bpf
