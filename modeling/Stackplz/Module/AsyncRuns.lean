import Stackplz.Module.AsyncSlot

/-!
# The asynchronous slot, over whole runs

What holds of the slot however control calls and worker runs are interleaved.  The invariant says
what each place of a run and of the control call knows of the slot, that at most one run holds it,
and how the slot and the history agree; it is kept by the steps of the control call
(`Sound.controlStep`), by the first step of a run (`Sound.take`) and by the others
(`Sound.runStep`, `Sound.executeReturns`).
-/

namespace Spz

open Errno Transition List Function

/-! ## The invariant -/

namespace RunPc

def owns : RunPc → Bool
  | .loadOperation _ | .loadTarget _ _ | .execute _ _ _ | .executing _ _ _ | .setStatus _ _
  | .setDone _ _ => true
  | .idle | .readStatus | .returned _ => false

/-- An `execute` call is in progress. -/
def isExecuting : RunPc → Bool
  | .executing _ _ _ => true
  | .idle | .loadOperation _ | .loadTarget _ _ | .execute _ _ _ | .setStatus _ _ | .setDone _ _
  | .readStatus | .returned _ => false

end RunPc

namespace AsyncWorld

section

variable (s : AsyncWorld)

/-- The execution of a request has returned the status, or the request was not queued. -/
def Ended (id : U64) (status : Except Errno Unit) : Prop :=
  (id, status) ∈ s.finished ∨ (id, status) ∈ s.refused

/-- The request has not been executed. -/
def Unexecuted (id : U64) : Prop := ∀ e ∈ s.executed, e.1 ≠ id

/-- The slot is held by a run that has taken the request. -/
def Taken (id : U64) : Prop :=
  s.slot.state = .running ∧ id = s.slot.requestId ∧
    (id, s.slot.operation, s.slot.targetId) ∈ s.submitted

def RunSound : RunPc → Prop
  | .loadOperation id => s.Taken id ∧ s.Unexecuted id
  | .loadTarget id operation => s.Taken id ∧ s.Unexecuted id ∧ operation = s.slot.operation
  | .execute id operation target =>
    s.Taken id ∧ s.Unexecuted id ∧ operation = s.slot.operation ∧ target = s.slot.targetId
  | .executing id _ _ => s.Taken id
  | .setStatus id status => s.Taken id ∧ (id, status) ∈ s.finished
  | .setDone id status => s.Taken id ∧ (id, status) ∈ s.finished ∧ s.slot.status = status
  | .idle | .readStatus | .returned _ => True

/-- The slot is held by the submit. -/
def Filling : Prop :=
  s.slot.state = .running ∧ ∀ w, (s.workers w).owns = false

/-- What the control call knows. -/
def ControlSound : SlotPc → Prop
  | .swap _ observed => observed = .free ∨ observed = .done
  | .setOperation _ => s.Filling
  | .setTarget r => s.Filling ∧ s.slot.operation = r.operation
  | .setStatus r | .nextId r =>
    s.Filling ∧ s.slot.operation = r.operation ∧ s.slot.targetId = r.targetId
  | .setId r id =>
    (s.Filling ∧ s.slot.operation = r.operation ∧ s.slot.targetId = r.targetId) ∧
      s.slot.nextRequestId = id ∧ ∀ e ∈ s.submitted, e.1.toNat < id.toNat
  | .publish r id =>
    (s.Filling ∧ s.slot.operation = r.operation ∧ s.slot.targetId = r.targetId) ∧
      s.slot.nextRequestId = id ∧ (∀ e ∈ s.submitted, e.1.toNat < id.toNat) ∧
      s.slot.requestId = id
  | .queue r => r.queue ≠ .ok () → s.slot.state = .pending
  | .failStatus r e => r.queue ≠ .ok () ∧ s.slot.state = .pending ∧
      s.Ended s.slot.requestId (.error (transportError e))
  | .failDone r e => r.queue ≠ .ok () ∧ s.slot.state = .pending ∧
      s.Ended s.slot.requestId (.error (transportError e)) ∧
      s.slot.status = .error (transportError e)
  | .lookOperation _ state | .lookId _ state _ => state = .done → s.slot.state = .done
  | .lookTarget _ state _ id | .lookStatus _ state _ id _ =>
    state = .done → s.slot.state = .done ∧ id = s.slot.requestId
  | .lookAgain _ snapshot => snapshot.state = .done →
      s.slot.state = .done ∧ snapshot.requestId = s.slot.requestId ∧
        snapshot.status = s.slot.status
  | .snapped (.ok snapshot) =>
    snapshot.state = .done → s.Ended snapshot.requestId snapshot.status
  | .idle | .load _ | .answer | .submitted _ | .look _ | .snapped (.error _) => True

end

/-- The invariant. -/
structure Sound (s : AsyncWorld) : Prop where
  control : s.ControlSound s.control
  workers : ∀ w, s.RunSound (s.workers w)
  one : ∀ v w, (s.workers v).owns = true → (s.workers w).owns = true → v = w
  done : s.slot.state = .done → s.Ended s.slot.requestId s.slot.status
  pending : s.slot.state = .pending →
    (s.slot.requestId, s.slot.operation, s.slot.targetId) ∈ s.submitted ∧
      s.Unexecuted s.slot.requestId
  order : s.submitted.Pairwise fun a b => a.1.toNat < b.1.toNat
  last : ∀ e ∈ s.submitted, e.1.toNat ≤ s.slot.nextRequestId.toNat
  executed : ∀ e ∈ s.executed, e ∈ s.submitted
  once : (s.executed.map Prod.fst).Nodup

variable {s s' : AsyncWorld} {w : ℕ}

lemma RunSound.of_not_owns {pc : RunPc} (h : pc.owns = false) : s.RunSound pc := by
  cases pc with
  | idle => trivial
  | readStatus => trivial
  | returned status => trivial
  | _ => cases h

lemma RunSound.taken {pc : RunPc} (h : s.RunSound pc) (howns : pc.owns = true) :
    s.slot.state = .running := by
  cases pc with
  | executing id operation target => exact h.1
  | idle | readStatus | returned status => cases howns
  | _ => exact h.1.1

namespace Sound

lemma init : Sound {} where
  control := trivial
  workers _ := trivial
  one v w h := by cases h
  done h := by cases h
  pending h := by cases h
  order := .nil
  last e he := by cases he
  executed e he := by cases he
  once := .nil

lemma not_owns (h : s.Sound) (hstate : s.slot.state ≠ .running) (w : ℕ) :
    (s.workers w).owns = false := by
  cases howns : (s.workers w).owns with
  | false => rfl
  | true => exact absurd ((h.workers w).taken howns) hstate

/-! ### The control call -/

lemma setControl (h : s.Sound) {pc : SlotPc} (hpc : s.ControlSound pc) :
    Sound { s with control := pc } :=
  ⟨hpc, h.workers, h.one, h.done, h.pending, h.order, h.last, h.executed, h.once⟩

lemma fill (h : s.Sound) {slot : AsyncRequest} {pc : SlotPc}
    (hfree : ∀ w, (s.workers w).owns = false) (hstate : slot.state = .running)
    (hlast : s.slot.nextRequestId.toNat ≤ slot.nextRequestId.toNat)
    (hpc : AsyncWorld.ControlSound { s with slot := slot, control := pc } pc) :
    Sound { s with slot := slot, control := pc } := by
  refine ⟨hpc, fun w => .of_not_owns (hfree w), h.one, ?_, ?_, h.order, ?_, h.executed, h.once⟩
  · intro hdone
    rw [show slot.state = .done from hdone] at hstate
    cases hstate
  · intro hpending
    rw [show slot.state = .pending from hpending] at hstate
    cases hstate
  · exact fun e he => Nat.le_trans (h.last e he) hlast

/-- The submit publishes the request under a number that is larger than all before. -/
lemma publish (h : s.Sound) {r : Submission} {id : U64} (hpc : s.ControlSound (.publish r id)) :
    Sound { s with
      slot := { s.slot with state := .pending }
      control := .queue r
      submitted := s.submitted ++ [(id, r.operation, r.targetId)] } := by
  obtain ⟨⟨⟨-, hfree⟩, hoperation, htarget⟩, hnext, hnew, hid⟩ := hpc
  refine ⟨fun _ => rfl, fun w => .of_not_owns (hfree w), h.one, ?_, fun _ => ⟨?_, ?_⟩, ?_, ?_, ?_,
    h.once⟩
  · intro hdone
    cases hdone
  · rw [hid, hoperation, htarget]
    exact mem_append_right _ (mem_singleton_self _)
  · intro e he heq
    have hlt := hnew e (h.executed e he)
    rw [heq, hid] at hlt
    exact Nat.lt_irrefl _ hlt
  · rw [pairwise_append]
    refine ⟨h.order, pairwise_singleton _ _, fun e he e' he' => ?_⟩
    rw [mem_singleton.mp he']
    exact hnew e he
  · intro e he
    rcases mem_append.mp he with he | he
    · exact h.last e he
    · rw [mem_singleton.mp he]
      exact Nat.le_of_eq (congrArg BitVec.toNat hnext.symm)
  · exact fun e he => mem_append_left _ (h.executed e he)

lemma asyncNextId_toNat {r : AsyncRequest} (hids : r.nextRequestId ≠ BitVec.allOnes 64) :
    (asyncNextId r).toNat = r.nextRequestId.toNat + 1 := by
  rw [asyncNextId, if_neg (add_one_ne_zero_of_ne hids), toNat_add_one hids]

/-- A step of the control call. -/
lemma controlStep (h : s.Sound) (hids : s.slot.nextRequestId ≠ BitVec.allOnes 64) :
    s.controlStep.Sound := by
  have hc := h.control
  unfold AsyncWorld.controlStep
  cases hpc : s.control with rw [hpc] at hc
  | idle => exact h
  | submitted result => exact h
  | snapped result => exact h
  | load r =>
    refine h.setControl ?_
    cases s.slot.state with
    | free => exact .inl rfl
    | done => exact .inr rfl
    | _ => trivial
  | swap r observed =>
    dsimp only
    split_ifs with heq
    · -- the slot is free or done, so no run holds it
      have hidle : s.slot.state ≠ .running := by
        rw [heq]
        rcases hc with rfl | rfl
        all_goals simp
      exact h.fill (h.not_owns hidle) rfl (Nat.le_refl _) ⟨rfl, h.not_owns hidle⟩
    · refine h.setControl ?_
      cases s.slot.state with
      | free => exact .inl rfl
      | done => exact .inr rfl
      | _ => trivial
  | setOperation r =>
    exact h.fill hc.2 hc.1 (Nat.le_refl _) ⟨hc, rfl⟩
  | setTarget r =>
    exact h.fill hc.1.2 hc.1.1 (Nat.le_refl _) ⟨hc.1, hc.2, rfl⟩
  | setStatus r =>
    exact h.fill hc.1.2 hc.1.1 (Nat.le_refl _) hc
  | nextId r =>
    have hnext := asyncNextId_toNat hids
    refine h.fill hc.1.2 hc.1.1 ?_ ⟨hc, rfl, fun e he => ?_⟩
    · show s.slot.nextRequestId.toNat ≤ (asyncNextId s.slot).toNat
      omega
    · have := h.last e he
      omega
  | setId r id =>
    exact h.fill hc.1.1.2 hc.1.1.1 (Nat.le_refl _) ⟨hc.1, hc.2.1, hc.2.2, rfl⟩
  | publish r id =>
    exact h.publish hc
  | queue r =>
    dsimp only
    cases hqueue : r.queue with
    | ok _ => exact h.setControl trivial
    | error e =>
      have hfail : r.queue ≠ .ok () := by
        rw [hqueue]
        simp
      have hstate := hc hfail
      refine ⟨⟨hfail, hstate, .inr ?_⟩, h.workers, h.one, ?_, h.pending, h.order, h.last,
        h.executed, h.once⟩
      · exact mem_append_right _ (mem_singleton_self _)
      · intro hdone
        rw [show s.slot.state = .done from hdone] at hstate
        cases hstate
  | failStatus r e =>
    obtain ⟨hfail, hstate, hended⟩ := hc
    have hfree := h.not_owns (by rw [hstate]; simp)
    refine ⟨⟨hfail, hstate, hended, rfl⟩, fun w => .of_not_owns (hfree w), h.one, ?_, h.pending,
      h.order, h.last, h.executed, h.once⟩
    intro hdone
    rw [show s.slot.state = .done from hdone] at hstate
    cases hstate
  | failDone r e =>
    obtain ⟨hfail, hstate, hended, hstatus⟩ := hc
    have hfree := h.not_owns (by rw [hstate]; simp)
    refine ⟨trivial, fun w => .of_not_owns (hfree w), h.one, fun _ => ?_, ?_, h.order, h.last,
      h.executed, h.once⟩
    · rw [← hstatus] at hended
      exact hended
    · intro hpending
      cases hpending
  | answer => exact h.setControl trivial
  | look attempt => exact h.setControl (fun hdone => hdone)
  | lookId attempt state operation =>
    exact h.setControl fun hdone => ⟨hc hdone, rfl⟩
  | lookStatus attempt state operation id target =>
    exact h.setControl fun hdone => ⟨(hc hdone).1, (hc hdone).2, rfl⟩
  | lookAgain attempt snapshot =>
    dsimp only
    split_ifs
    · refine h.setControl fun hdone => ?_
      obtain ⟨hstate, hid, hstatus⟩ := hc hdone
      rw [hid, hstatus]
      exact h.done hstate
    · refine h.setControl ?_
      unfold snapshotAgain
      split_ifs
      all_goals trivial
  | _ =>
    exact h.setControl hc

/-! ### The runs -/

variable (h : s.Sound)
include h

/-- A run does not disturb the control call: while a run takes or holds the slot, no submit
holds it, no submit is failing, and no snapshot has seen the slot done. -/
lemma control_kept
    (hheld : s.slot.state = .running ∧ (∃ w, (s.workers w).owns = true) ∨
      s.slot.state = .pending ∧ ∀ r, s.control.submission? = some r → r.queue = .ok ())
    (hended : ∀ id status, s.Ended id status → s'.Ended id status) :
    s'.ControlSound s.control := by
  have hc := h.control
  have hnotdone : s.slot.state ≠ .done := by
    rcases hheld with ⟨hstate, -⟩ | ⟨hstate, -⟩
    all_goals
      rw [hstate]
      simp
  have hnotfilling : ¬ s.Filling := by
    rintro ⟨hstate, hfree⟩
    rcases hheld with ⟨-, w, howns⟩ | ⟨hpending, -⟩
    · rw [hfree w] at howns
      cases howns
    · rw [hstate] at hpending
      cases hpending
  have hnotfailing : ∀ r, s.control.submission? = some r → r.queue ≠ .ok () →
      s.slot.state ≠ .pending := by
    intro r hr hfail hpending
    rcases hheld with ⟨hstate, -⟩ | ⟨-, hall⟩
    · rw [hstate] at hpending
      cases hpending
    · exact hfail (hall r hr)
  cases hpc : s.control with rw [hpc] at hc
  | idle | load r | answer | submitted result | look attempt => trivial
  | swap r observed =>
    exact hc
  | setOperation r =>
    exact absurd hc hnotfilling
  | setTarget r | setStatus r | nextId r =>
    exact absurd hc.1 hnotfilling
  | setId r id | publish r id =>
    exact absurd hc.1.1 hnotfilling
  | queue r =>
    rw [hpc] at hnotfailing
    exact fun hfail => absurd (hc hfail) (hnotfailing r rfl hfail)
  | failStatus r e | failDone r e =>
    rw [hpc] at hnotfailing
    exact absurd hc.2.1 (hnotfailing r rfl hc.1)
  | lookOperation attempt state | lookId attempt state operation =>
    exact fun hdone => absurd (hc hdone) hnotdone
  | snapped result =>
    cases result with
    | error e => trivial
    | ok snapshot => exact fun hdone => hended _ _ (hc hdone)
  | _ =>
    exact fun hdone => absurd (hc hdone).1 hnotdone

lemma others (howns : (s.workers w).owns = true) {v : ℕ} (hv : v ≠ w) :
    (s.workers v).owns = false := by
  cases hother : (s.workers v).owns with
  | false => rfl
  | true => exact absurd (h.one v w hother howns) hv

/-- The one run that holds the slot, or takes it, makes a step: what is left to show concerns
the slot and the history. -/
lemma holder {pc : RunPc} (hfree : ∀ v, v ≠ w → (s.workers v).owns = false)
    (hworkers : s'.workers = update s.workers w pc) (hrun : s'.RunSound pc)
    (hcontrol : s'.ControlSound s'.control)
    (hdone : s'.slot.state = .done → s'.Ended s'.slot.requestId s'.slot.status)
    (hpending : s'.slot.state ≠ .pending) (hsubmitted : s'.submitted = s.submitted)
    (hlast : s'.slot.nextRequestId = s.slot.nextRequestId)
    (hexecuted : ∀ e ∈ s'.executed, e ∈ s.submitted) (honce : (s'.executed.map Prod.fst).Nodup) :
    s'.Sound := by
  refine ⟨hcontrol, fun v => ?_, fun u v hu hv => ?_, hdone, fun h => absurd h hpending, ?_, ?_, ?_,
    honce⟩
  · rw [hworkers]
    by_cases hv : v = w
    · subst hv
      rw [update_self]
      exact hrun
    · rw [update_of_ne hv]
      exact .of_not_owns (hfree v hv)
  · have hholder : ∀ v, (s'.workers v).owns = true → v = w := by
      intro v hv
      by_contra hne
      rw [hworkers, update_of_ne hne, hfree v hne] at hv
      cases hv
    rw [hholder u hu, hholder v hv]
  · rw [hsubmitted]
    exact h.order
  · rw [hsubmitted, hlast]
    exact h.last
  · rw [hsubmitted]
    exact hexecuted

/-- A run that does not own the slot may move on. -/
lemma bystander {pc : RunPc} (hold : (s.workers w).owns = false)
    (hnew : pc.owns = false) : (s.setWorker w pc).Sound := by
  have howns : ∀ v, ((s.setWorker w pc).workers v).owns = (s.workers v).owns := by
    intro v
    by_cases hv : v = w
    · subst hv
      rw [hold]
      exact (congrArg RunPc.owns (update_self _ _ _)).trans hnew
    · exact congrArg RunPc.owns (update_of_ne hv _ _)
  have hfilling : s.Filling → (s.setWorker w pc).Filling := fun ⟨hstate, hfree⟩ =>
    ⟨hstate, fun v => (howns v).trans (hfree v)⟩
  refine ⟨?_, fun v => ?_, fun u v hu hv => ?_, h.done, h.pending, h.order, h.last, h.executed,
    h.once⟩
  · show (s.setWorker w pc).ControlSound s.control
    have hc := h.control
    cases hpc : s.control <;> rw [hpc] at hc
    -- only the places that fill the slot speak of the runs
    case setOperation => exact hfilling hc
    case setTarget => exact ⟨hfilling hc.1, hc.2⟩
    case setStatus => exact ⟨hfilling hc.1, hc.2⟩
    case nextId => exact ⟨hfilling hc.1, hc.2⟩
    case setId => exact ⟨⟨hfilling hc.1.1, hc.1.2⟩, hc.2⟩
    case publish => exact ⟨⟨hfilling hc.1.1, hc.1.2⟩, hc.2⟩
    case snapped result => cases result <;> exact hc
    all_goals exact hc
  · by_cases hv : v = w
    · subst hv
      show RunSound _ (update s.workers v pc v)
      rw [update_self]
      exact .of_not_owns hnew
    · show RunSound _ (update s.workers w pc v)
      rw [update_of_ne hv]
      exact h.workers v
  · rw [howns] at hu hv
    exact h.one u v hu hv

lemma take (hrest : (s.workers w).resting = true)
    (hquiet : ∀ r, s.control.submission? = some r → r.queue = .ok ()) : (s.take w).Sound := by
  have hnot : (s.workers w).owns = false := by
    cases hpc : s.workers w <;> rw [hpc] at hrest <;> first | rfl | cases hrest
  unfold AsyncWorld.take
  cases hstate : s.slot.state with
  | pending =>
    obtain ⟨hmem, hfresh⟩ := h.pending hstate
    have hfree := h.not_owns (by rw [hstate]; simp)
    exact h.holder (fun v _ => hfree v) rfl ⟨⟨rfl, rfl, hmem⟩, hfresh⟩
      (h.control_kept (.inr ⟨hstate, hquiet⟩) fun _ _ hended => hended)
      (fun hdone => by cases hdone) (by simp [setWorker]) rfl rfl h.executed h.once
  | _ => exact h.bystander hnot rfl

/-- The other steps of a run. -/
lemma runStep (w : ℕ) : (s.runStep w).Sound := by
  have hrun := h.workers w
  have hkept : ∀ s' : AsyncWorld, s.slot.state = .running → (s.workers w).owns = true →
      (∀ id status, s.Ended id status → s'.Ended id status) → s'.ControlSound s.control :=
    fun s' hstate howns => h.control_kept (.inl ⟨hstate, w, howns⟩)
  unfold AsyncWorld.runStep
  cases hpc : s.workers w with rw [hpc] at hrun
  | readStatus => exact h.bystander (by rw [hpc]; rfl) rfl
  | loadOperation id =>
    have howns : (s.workers w).owns = true := by rw [hpc]; rfl
    exact h.holder (fun v => h.others howns) rfl ⟨hrun.1, hrun.2, rfl⟩
      (hkept _ hrun.1.1 howns fun _ _ hended => hended) h.done
      (by show s.slot.state ≠ _; rw [hrun.1.1]; simp) rfl rfl h.executed h.once
  | loadTarget id operation =>
    have howns : (s.workers w).owns = true := by rw [hpc]; rfl
    exact h.holder (fun v => h.others howns) rfl ⟨hrun.1, hrun.2.1, hrun.2.2, rfl⟩
      (hkept _ hrun.1.1 howns fun _ _ hended => hended) h.done
      (by show s.slot.state ≠ _; rw [hrun.1.1]; simp) rfl rfl h.executed h.once
  | execute id operation target =>
    have howns : (s.workers w).owns = true := by rw [hpc]; rfl
    obtain ⟨⟨hstate, hid, hmem⟩, hfresh, rfl, rfl⟩ := hrun
    refine h.holder (fun v => h.others howns) rfl ⟨hstate, hid, hmem⟩
      (hkept _ hstate howns fun _ _ hended => hended) h.done
      (by show s.slot.state ≠ _; rw [hstate]; simp) rfl rfl (fun e he => ?_) ?_
    · rcases mem_append.mp he with he | he
      · exact h.executed e he
      · rw [mem_singleton.mp he]
        exact hmem
    · -- the request was not executed before
      show ((s.executed ++ [_]).map Prod.fst).Nodup
      rw [map_append, nodup_append]
      refine ⟨h.once, by simp, fun e he e' he' => ?_⟩
      obtain ⟨p, hp, rfl⟩ := mem_map.mp he
      rw [map_singleton, mem_singleton] at he'
      rw [he']
      exact hfresh p hp
  | setStatus id status =>
    have howns : (s.workers w).owns = true := by rw [hpc]; rfl
    obtain ⟨⟨hstate, hid, hmem⟩, hfinished⟩ := hrun
    refine h.holder (fun v => h.others howns) rfl ⟨⟨hstate, hid, hmem⟩, hfinished, rfl⟩
      (hkept _ hstate howns fun _ _ hended => hended) (fun hdone => ?_)
      (by show s.slot.state ≠ _; rw [hstate]; simp) rfl rfl h.executed h.once
    rw [show s.slot.state = .done from hdone] at hstate
    cases hstate
  | setDone id status =>
    have howns : (s.workers w).owns = true := by rw [hpc]; rfl
    obtain ⟨⟨hstate, rfl, hmem⟩, hfinished, rfl⟩ := hrun
    exact h.holder (fun v => h.others howns) rfl trivial
      (hkept _ hstate howns fun _ _ hended => hended) (fun _ => .inl hfinished)
      (by simp [setWorker]) rfl rfl h.executed h.once
  | _ => exact h

/-- An execution returns. -/
lemma executeReturns (w : ℕ) (status : Except Errno Unit) : (s.executeReturns w status).Sound := by
  have hrun := h.workers w
  unfold AsyncWorld.executeReturns
  cases hpc : s.workers w with
  | executing id operation target =>
    rw [hpc] at hrun
    have howns : (s.workers w).owns = true := by rw [hpc]; rfl
    obtain ⟨hstate, hid, hmem⟩ := hrun
    have hmore : ∀ i st, s.Ended i st →
        (s.finished ++ [(id, status)]).Mem (i, st) ∨ (i, st) ∈ s.refused := by
      intro i st hended
      rcases hended with hended | hended
      · exact .inl (mem_append_left _ hended)
      · exact .inr hended
    refine h.holder (fun v => h.others howns) rfl
      ⟨⟨hstate, hid, hmem⟩, mem_append_right _ (mem_singleton_self _)⟩
      (h.control_kept (.inl ⟨hstate, w, howns⟩) hmore) (fun hdone => hmore _ _ (h.done hdone))
      (by show s.slot.state ≠ _; rw [hstate]; simp) rfl rfl h.executed h.once
  | _ => exact h

/-- Every step keeps the invariant. -/
lemma step {a : AsyncAct} (hrun : RunOutsideFailure s a) (hids : IdsLeft s a)
    (hnext : s.next a = some s') : s'.Sound := by
  cases a with simp only [AsyncWorld.next, Option.ite_none_right_eq_some, Option.some.injEq]
    at hnext
  | submit r =>
    obtain ⟨-, rfl⟩ := hnext
    split_ifs <;> exact h.setControl trivial
  | snapshot =>
    obtain ⟨-, rfl⟩ := hnext
    exact h.setControl trivial
  | control =>
    cases hnext
    exact h.controlStep hids
  | run w =>
    obtain ⟨hrest, rfl⟩ := hnext
    exact h.take hrest hrun
  | worker w =>
    cases hnext
    exact h.runStep w
  | executed w status =>
    cases hnext
    exact h.executeReturns w status

end Sound

end AsyncWorld

/-! ## The slot -/

/-- What is assumed of the steps of a run. -/
def SlotAssumed (s : AsyncWorld) (a : AsyncAct) : Prop := RunOutsideFailure s a ∧ IdsLeft s a

instance (s : AsyncWorld) : ∀ a, Decidable (SlotAssumed s a)
  | .run _ => inferInstanceAs (Decidable
      ((∀ r ∈ s.control.submission?, r.queue = .ok ()) ∧ s.slot.nextRequestId ≠ _))
  | .submit _ | .snapshot | .control | .worker _ | .executed _ _ =>
    inferInstanceAs (Decidable (True ∧ s.slot.nextRequestId ≠ _))

/-- A worker runs early and finds nothing, a request is submitted, another worker takes it as soon
as it is published and executes it while the first runs again; the request is then looked up. -/
def slotActs : List AsyncAct :=
  [.run 0, .submit ⟨.enable, 7, .ok ()⟩] ++ List.replicate 8 .control ++
    [.run 1, .worker 1, .control, .worker 1, .worker 1, .run 0, .control,
      .executed 1 (.error ESTALE), .worker 1, .worker 1, .snapshot] ++
    List.replicate 6 .control

def slotEnd : AsyncWorld := runFrom (guarded SlotAssumed AsyncWorld.next) {} slotActs

end Spz
