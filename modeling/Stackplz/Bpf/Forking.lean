import Mathlib.Data.List.Infix
import Stackplz.Bpf.Filtering
import Stackplz.Lib.BoundedMap

/-!
# Following forks

`tracepoint__sched__sched_process_fork` of `src/stack.c` and `src/syscall.c`, and the map
`child_parent_map` it shares with `should_trace`.  `update_child_parent` seeds the map with the
white listed pids, each under itself.  At a fork the program looks the forking thread up and enters
the child only if the value it finds is the key: that is so for the seeds and for nothing the
program has entered.

So one generation is followed.  `lookup_forked` says what the map holds after any sequence of forks,
and `descendants_followed_iff` that all descendants are followed exactly when every fork among them
is made by a seeded task.
-/

namespace Spz.Bpf

open List

/-! ## The program -/

/-- `child_parent_map`, with its `max_entries`. -/
abbrev ChildParentMap := BoundedMap U32 U32 512

/-- `get_task_ns_pid` and `get_task_ns_tgid` of a task: the id of the thread and of its process. -/
structure TaskIds where
  pid : U32
  tgid : U32
deriving DecidableEq, Repr

/-- The arguments of the tracepoint. -/
structure ForkEvent where
  parent : TaskIds
  child : TaskIds
deriving DecidableEq, Repr

/-- `update_child_parent`, which panics if an update fails. -/
def updateChildParent (pidWhitelist : List U32) : Option ChildParentMap :=
  pidWhitelist.foldlM (fun map v => map.update v v) .empty

section

variable (map : ChildParentMap)

/-- `tracepoint__sched__sched_process_fork`. -/
def schedProcessFork (e : ForkEvent) : ChildParentMap :=
  match map.lookup e.parent.pid with
  | none => map
  | some pid => if pid = e.parent.pid then map.put e.child.pid e.parent.pid else map

def forked (events : List ForkEvent) : ChildParentMap :=
  events.foldl schedProcessFork map

/-- The lookup of `should_trace`. -/
def ChildParentMap.listed (pid : U32) : Bool := (map.lookup pid).isSome

end

/-! ## Histories -/

/-- The fork makes a new process and not a thread of the old one. -/
def ForkEvent.NewProcess (e : ForkEvent) : Prop := e.child.tgid = e.child.pid

def ForkEvent.ids (e : ForkEvent) : List U32 :=
  [e.parent.pid, e.parent.tgid, e.child.pid, e.child.tgid]

/-- No pid is given out twice: a child's is none of those seen before. -/
structure NoReuse (seeds : List U32) (events : List ForkEvent) : Prop where
  earlier : events.Pairwise fun d e => e.child.pid ∉ d.ids
  fresh : ∀ e ∈ events, e.child.pid ∉ seeds ∧ e.child.pid ≠ e.parent.pid

/-- The map has a free entry at any time. -/
def NeverFull (map : ChildParentMap) (events : List ForkEvent) : Prop :=
  ∀ before, before <+: events → (forked map before).Room

/-- The process descends, over any number of forks, from a seeded one. -/
inductive Descends (seeds : List U32) (events : List ForkEvent) : U32 → Prop
  | seeded {e : ForkEvent} : e ∈ events → e.NewProcess → e.parent.tgid ∈ seeds →
      Descends seeds events e.child.pid
  | forked {e : ForkEvent} : e ∈ events → e.NewProcess → Descends seeds events e.parent.tgid →
      Descends seeds events e.child.pid

variable {seeds : List U32} {events before : List ForkEvent} {map map₀ : ChildParentMap} {p : U32}
  {e : ForkEvent}

lemma Descends.mono (h : Descends seeds before p) (hsub : before ⊆ events) :
    Descends seeds events p := by
  induction h with
  | seeded he hnew hseed => exact .seeded (hsub he) hnew hseed
  | forked he hnew _ ih => exact .forked (hsub he) hnew ih

lemma Descends.exists_fork (h : Descends seeds events p) :
    ∃ e ∈ events, e.NewProcess ∧ e.child.pid = p ∧
      (e.parent.tgid ∈ seeds ∨ Descends seeds events e.parent.tgid) := by
  cases h with
  | seeded he hnew hseed => exact ⟨_, he, hnew, rfl, .inl hseed⟩
  | forked he hnew hparent => exact ⟨_, he, hnew, rfl, .inr hparent⟩

lemma NoReuse.of_isPrefix (h : NoReuse seeds events) (hbefore : before <+: events) :
    NoReuse seeds before where
  earlier := h.earlier.sublist hbefore.sublist
  fresh e he := h.fresh e (hbefore.subset he)

lemma NoReuse.eq_of_child_eq (h : NoReuse seeds events) {d : ForkEvent} (hd : d ∈ events)
    (he : e ∈ events) (heq : d.child.pid = e.child.pid) : d = e := by
  have hnodup : (events.map fun e => e.child.pid).Nodup := by
    rw [List.Nodup, pairwise_map]
    refine h.earlier.imp fun hnew heq => hnew ?_
    simp [ForkEvent.ids, heq]
  exact inj_on_of_nodup_map hnodup hd he heq

lemma NeverFull.of_isPrefix (h : NeverFull map events) (hbefore : before <+: events) :
    NeverFull map before :=
  fun first hfirst => h first (hfirst.trans hbefore)

/-! ## What the map holds -/

lemma lookup_updateChildParent (h : updateChildParent seeds = some map) (p v : U32) :
    map.lookup p = some v ↔ p ∈ seeds ∧ v = p := by
  have hfold : ∀ {pids : List U32} {start : ChildParentMap},
      pids.foldlM (fun (map : ChildParentMap) v => map.update v v) start = some map →
      (map.lookup p = some v ↔ (p ∈ pids ∧ v = p) ∨ (p ∉ pids ∧ start.lookup p = some v)) := by
    intro pids
    induction pids with
    | nil =>
      intro start h
      obtain rfl : start = map := by simpa using h
      simp
    | cons pid pids ih =>
      intro start h
      rw [foldlM_cons, Option.bind_eq_bind, Option.bind_eq_some_iff] at h
      obtain ⟨middle, hupdate, hrest⟩ := h
      rw [ih hrest, BoundedMap.lookup_update hupdate]
      by_cases hp : p = pid
      · subst hp
        by_cases hmem : p ∈ pids <;> simp [hmem, eq_comm]
      · simp [hp]
  rw [hfold h]
  simp

lemma schedProcessFork_of_self (h : map.lookup e.parent.pid = some e.parent.pid) :
    schedProcessFork map e = map.put e.child.pid e.parent.pid := by
  rw [schedProcessFork, h]
  exact if_pos rfl

lemma schedProcessFork_of_other (h : map.lookup e.parent.pid ≠ some e.parent.pid) :
    schedProcessFork map e = map := by
  unfold schedProcessFork
  cases hlookup : map.lookup e.parent.pid with
  | none => rfl
  | some pid =>
    rw [hlookup] at h
    exact if_neg fun heq => h (by rw [heq])

section

variable (hload : updateChildParent seeds = some map₀)
include hload

/-- What the map holds: the seeds, and the children that a seeded task has forked. -/
lemma lookup_forked (hreuse : NoReuse seeds events) (hroom : NeverFull map₀ events) (p v : U32) :
    (forked map₀ events).lookup p = some v ↔
      p ∈ seeds ∧ v = p ∨
        ∃ e ∈ events, e.child.pid = p ∧ e.parent.pid ∈ seeds ∧ v = e.parent.pid := by
  induction events using reverseRecOn generalizing p v with
  | nil =>
    rw [show forked map₀ [] = map₀ from rfl, lookup_updateChildParent hload]
    simp
  | append_singleton before e ih =>
    have hbefore : before <+: before ++ [e] := prefix_append _ _
    have ih := ih (hreuse.of_isPrefix hbefore) (hroom.of_isPrefix hbefore)
    have hstep : forked map₀ (before ++ [e]) = schedProcessFork (forked map₀ before) e := by
      rw [forked, foldl_append]
      rfl
    rw [hstep]
    by_cases hseed : e.parent.pid ∈ seeds
    · -- the value of a seed is the seed, and the child is entered
      rw [schedProcessFork_of_self ((ih _ _).mpr (.inl ⟨hseed, rfl⟩)),
        BoundedMap.lookup_put (.inr (hroom before hbefore))]
      split_ifs with hchild
      · subst hchild
        constructor
        · rintro ⟨⟩
          exact .inr ⟨e, by simp, rfl, hseed, rfl⟩
        · rintro (⟨hmem, -⟩ | ⟨d, hd, hdchild, -, rfl⟩)
          · exact absurd hmem (hreuse.fresh e (by simp)).1
          · rw [hreuse.eq_of_child_eq hd (by simp) hdchild]
      · rw [ih]
        simp [mem_append, or_and_right, exists_or, Ne.symm hchild]
    · -- anything else is unknown or stands under its own parent, a seed
      have hother : (forked map₀ before).lookup e.parent.pid ≠ some e.parent.pid := by
        intro hself
        rcases (ih _ _).mp hself with ⟨hmem, -⟩ | ⟨d, -, -, hmem, heq⟩
        · exact hseed hmem
        · exact hseed (heq ▸ hmem)
      rw [schedProcessFork_of_other hother, ih]
      simp [mem_append, or_and_right, exists_or, hseed]

lemma listed_forked (hreuse : NoReuse seeds events) (hroom : NeverFull map₀ events) (p : U32) :
    (forked map₀ events).listed p = true ↔
      p ∈ seeds ∨ ∃ e ∈ events, e.child.pid = p ∧ e.parent.pid ∈ seeds := by
  rw [ChildParentMap.listed, Option.isSome_iff_exists]
  simp only [lookup_forked hload hreuse hroom]
  constructor
  · rintro ⟨v, ⟨hmem, -⟩ | ⟨e, he, hchild, hseed, -⟩⟩
    · exact .inl hmem
    · exact .inr ⟨e, he, hchild, hseed⟩
  · rintro (hmem | ⟨e, he, hchild, hseed⟩)
    · exact ⟨p, .inl ⟨hmem, rfl⟩⟩
    · exact ⟨e.parent.pid, .inr ⟨e, he, hchild, hseed, rfl⟩⟩

/-! ## Who is followed -/

/-- All descendants are followed at any time exactly when the forks among the seeds and their
descendants are all made by a task whose own id is seeded. -/
theorem descendants_followed_iff (hreuse : NoReuse seeds events) (hroom : NeverFull map₀ events) :
    (∀ before, before <+: events → ∀ p, Descends seeds before p →
      ((forked map₀ before).lookup p).isSome ∧
        ∀ (cfg : TraceConfig) (listed : ListName → U32 → Bool) (task : Task), task.pid = p →
          IdRule.applies { cfg with childParentMap := (forked map₀ before).listed } listed task
            .forked = true) ↔
    ∀ e ∈ events, e.NewProcess → (e.parent.tgid ∈ seeds ∨ Descends seeds events e.parent.tgid) →
      e.parent.pid ∈ seeds := by
  constructor
  · intro h e he hnew hfamily
    have hdescends : Descends seeds events e.child.pid :=
      hfamily.elim (.seeded he hnew) (.forked he hnew)
    have hlisted := (h events (prefix_refl _) _ hdescends).1
    rcases (listed_forked hload hreuse hroom _).mp hlisted with hmem | ⟨d, hd, hchild, hseed⟩
    · exact absurd hmem (hreuse.fresh e he).1
    · rwa [hreuse.eq_of_child_eq hd he hchild] at hseed
  · intro h before hbefore p hp
    obtain ⟨e, he, hnew, rfl, hfamily⟩ := hp.exists_fork
    have hseed := h e (hbefore.subset he) hnew (hfamily.imp_right fun hd => hd.mono hbefore.subset)
    have hlisted := (listed_forked hload (hreuse.of_isPrefix hbefore) (hroom.of_isPrefix hbefore)
      e.child.pid).mpr (.inr ⟨e, he, rfl, hseed⟩)
    refine ⟨hlisted, fun cfg listed task htask => ?_⟩
    rw [IdRule.applies, htask]
    exact hlisted

end

/-- The first thread of process `p` forks the process `c`. -/
def forkOf (p c : U32) : ForkEvent := ⟨⟨p, p⟩, ⟨c, c⟩⟩

/-- The map with the pid 100 as its only seed. -/
def seededMap : ChildParentMap := BoundedMap.empty.put 100 100

lemma neverFull_of_inits (h : ∀ before ∈ events.inits, (forked map before).Room) :
    NeverFull map events :=
  fun before hbefore => h before ((mem_inits _ _).mpr hbefore)

/-- A child of the seed is followed. -/
theorem descendants_followed_child : ((forked seededMap [forkOf 100 101]).lookup 101).isSome :=
  have hreuse : NoReuse [100] [forkOf 100 101] := ⟨by decide, by decide⟩
  have hroom : NeverFull seededMap [forkOf 100 101] := neverFull_of_inits (by decide +kernel)
  have hall : ∀ e ∈ [forkOf 100 101], e.NewProcess →
      (e.parent.tgid ∈ [100] ∨ Descends [100] [forkOf 100 101] e.parent.tgid) →
      e.parent.pid ∈ [(100 : U32)] := by
    intro e he _ _
    rw [mem_singleton.mp he]
    decide
  have hload : updateChildParent [100] = some seededMap := rfl
  ((descendants_followed_iff hload hreuse hroom).mpr hall [forkOf 100 101]
    (prefix_refl _) 101 (.seeded mem_cons_self rfl (by decide))).1

/-- A grandchild is lost: the process 102, forked by the child 101 of the seed. -/
theorem grandchild_not_followed :
    updateChildParent [100] = some seededMap ∧
      NoReuse [100] [forkOf 100 101, forkOf 101 102] ∧
      NeverFull seededMap [forkOf 100 101, forkOf 101 102] ∧
      Descends [100] [forkOf 100 101, forkOf 101 102] 102 ∧
      (forked seededMap [forkOf 100 101, forkOf 101 102]).lookup 102 = none := by
  refine ⟨rfl, ⟨by decide, by decide⟩, neverFull_of_inits (by decide +kernel), ?_,
    by decide +kernel⟩
  have hchild : Descends [100] [forkOf 100 101, forkOf 101 102] 101 :=
    .seeded (e := forkOf 100 101) (by decide) rfl (by decide)
  exact .forked (e := forkOf 101 102) (by decide) rfl hchild

end Spz.Bpf
