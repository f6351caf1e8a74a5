import Mathlib.Data.List.Nodup

/-!
# Starting the modules

`startModules` of `cli/cmd/run_lifecycle.go`: it creates, initialises and runs one module after
another, and closes those it has run, the last one first, when one of them fails.
-/

namespace Spz.Lifecycle

/-- Go errors: those of factory and modules, which can be compared, `fmt.Errorf` without and with
    `%w`, and `runErrors`. -/
inductive GoError (E : Type)
  | cause (e : E)
  | text (format : String) (args : List String)
  | wrap (format name : String) (err : GoError E)
  | runErrors (heading : String) (causes : List (GoError E))

/-- `errors.Is`; a `runErrors` cannot be compared, its method `Is` asks each cause. -/
inductive GoError.Is {E : Type} : GoError E → GoError E → Prop
  | cause (e : E) : Is (.cause e) (.cause e)
  | text (format : String) (args : List String) : Is (.text format args) (.text format args)
  | same (format name : String) (err : GoError E) :
    Is (.wrap format name err) (.wrap format name err)
  | wrap {format name : String} {err target : GoError E} :
      Is err target → Is (.wrap format name err) target
  | runErrors {heading : String} {causes : List (GoError E)} {err target : GoError E} :
      err ∈ causes → Is err target → Is (.runErrors heading causes) target

/-- The name of a module and the errors of its methods. -/
structure Methods (E M : Type) where
  name : M → String
  init : M → Option E
  run : M → Option E
  close : M → Option E

/-- What `startModules` returns, and for which names it has called the factory, on which modules
    `Run` and on which `Close`, in this order. -/
structure Outcome (E M : Type) where
  started : List M
  err : Option (GoError E)
  created : List String := []
  attempted : List M := []
  closed : List M := []

variable {E M : Type} (w : Methods E M)

/-- `closeModules`: the error and the modules that were closed. -/
def closeModules (modules : List (Option M)) : Option (GoError E) × List M :=
  let present := modules.reverse.filterMap id
  let causes := present.filterMap fun m =>
    (w.close m).map fun e => .wrap "close module %q: %w" (w.name m) (.cause e)
  (if causes.isEmpty then none else some (.runErrors "module cleanup failed" causes), present)

def combineRunErrors : (primary cleanup : Option (GoError E)) → Option (GoError E)
  | none, cleanup => cleanup
  | some primary, none => some primary
  | some primary, some cleanup => some (.runErrors "module operation failed" [primary, cleanup])

/-- A return of `startModules` with an error. -/
def failed (name : String) (attempted started : List M) (primary : GoError E) : Outcome E M where
  started := []
  err := combineRunErrors (some primary) (closeModules w (started.map some)).1
  created := [name]
  attempted := attempted
  closed := (closeModules w (started.map some)).2

variable (factory : ℕ → String → Except E (Option M))

/-- The loop of `startModules`, with the modules that run; `factory n` is the `n`th call. -/
def startLoop (started : List M) : List String → Outcome E M
  | [] => { started, err := none }
  | name :: names =>
    match factory started.length name with
    | .error e => failed w name [] started (.wrap "create module %q: %w" name (.cause e))
    | .ok none => failed w name [] started (.text "create module %q: nil module" [name])
    | .ok (some m) =>
      match w.init m with
      | some e => failed w name [] started (.wrap "initialize module %q: %w" name (.cause e))
      | none =>
        match w.run m with
        | some e => failed w name [m] (started ++ [m]) (.wrap "run module %q: %w" name (.cause e))
        | none =>
          let out := startLoop (started ++ [m]) names
          { out with created := name :: out.created, attempted := m :: out.attempted }

/-- `startModules`; the factory may be nil. -/
def startModules (names : List String) :
    Option (ℕ → String → Except E (Option M)) → Outcome E M
  | none => { started := [], err := some (.text "module factory is nil" []) }
  | some factory => startLoop w factory [] names

/-- Why the `n`th module cannot be started, if it cannot. -/
def cause? (n : ℕ) (name : String) : Option (GoError E) :=
  match factory n name with
  | .error e => some (.cause e)
  | .ok none => some (.text "create module %q: nil module" [name])
  | .ok (some m) => (w.init m <|> w.run m).map .cause

variable {w factory} {started : List M} {names : List String} {name : String}
  {primary cause err : GoError E}

lemma is_of_failed {attempted : List M} (hp : primary.Is cause)
    (h : (failed w name attempted started primary).err = some err) :
    err.Is cause ∧ ∀ m ∈ started, ∀ e, w.close m = some e → err.Is (.cause e) := by
  simp only [failed, closeModules] at h
  generalize hc : List.filterMap (β := GoError E) _ _ = causes at h
  have mem : ∀ m ∈ started, ∀ e, w.close m = some e →
      .wrap "close module %q: %w" (w.name m) (.cause e) ∈ causes := by
    intro m hm e he
    rw [← hc, List.mem_filterMap]
    exact ⟨m, by simpa using hm, by rw [he]; rfl⟩
  cases causes with
  | nil =>
    cases h
    exact ⟨hp, fun m hm e he => absurd (mem m hm e he) List.not_mem_nil⟩
  | cons c causes =>
    cases h
    refine ⟨.runErrors (.head _) hp, fun m hm e he => ?_⟩
    exact .runErrors (.tail _ (.head _)) (.runErrors (mem m hm e he) (.wrap (.cause e)))

/-- What the loop has done after the modules `started`, whether it fails or not. -/
structure Loop (w : Methods E M) (factory : ℕ → String → Except E (Option M)) (started : List M)
    (names : List String) (out : Outcome E M) : Prop where
  attempted : ∀ i m, out.attempted[i]? = some m →
    ∃ name, names[i]? = some name ∧ factory (started.length + i) name = .ok (some m)
  success : out.err = none → out.closed = [] ∧ out.started = started ++ out.attempted ∧
    out.attempted.length = names.length
  failure : ∀ err, out.err = some err → out.closed = (started ++ out.attempted).reverse ∧
    (∃ k name cause, names[k]? = some name ∧ out.created = names.take (k + 1) ∧
      cause? w factory (started.length + k) name = some cause ∧ err.Is cause) ∧
    ∀ m ∈ out.closed, ∀ e, w.close m = some e → err.Is (.cause e)

lemma loop_failed (ran : Option M) {run : List M} (hp : primary.Is cause)
    (hc : cause? w factory started.length name = some cause) (hrun : run = started ++ ran.toList)
    (hran : ∀ m ∈ ran, factory started.length name = .ok (some m)) :
    Loop w factory started (name :: names) (failed w name ran.toList run primary) where
  attempted i m h := by
    cases ran with
    | none => cases h
    | some m' =>
      cases i with
      | zero => cases h; exact ⟨name, rfl, hran _ rfl⟩
      | succ i => cases h
  success h := by
    simp only [failed] at h
    generalize (closeModules w (run.map some)).1 = cleanup at h
    cases cleanup <;> cases h
  failure err h := by
    obtain ⟨his, hclose⟩ := is_of_failed hp h
    refine ⟨by simp [failed, closeModules, hrun], ⟨0, name, cause, rfl, rfl, hc, his⟩,
      fun m hm => ?_⟩
    exact hclose m (by simpa [failed, closeModules] using hm)

/-- The invariant of the loop, by induction on the names that are left. -/
lemma startLoop_loop : Loop w factory started names (startLoop w factory started names) := by
  fun_induction startLoop w factory started names with
  | case1 => exact ⟨nofun, fun _ => ⟨rfl, by simp, rfl⟩, nofun⟩
  | case2 started name _ e hf =>
    exact loop_failed none (.wrap (.cause e)) (by simp [cause?, hf]) (by simp) (by simp)
  | case3 started name _ hf =>
    exact loop_failed none (.text ..) (by simp [cause?, hf]) (by simp) (by simp)
  | case4 started name _ m hf e hi =>
    exact loop_failed none (.wrap (.cause e)) (by simp [cause?, hf, hi]) (by simp) (by simp)
  | case5 started name _ m hf hi e hr =>
    exact loop_failed (some m) (.wrap (.cause e)) (by simp [cause?, hf, hi, hr]) rfl (by simp [hf])
  | case6 started name names m hf hi hr out ih =>
    have hplace : ∀ i, (started ++ [m]).length + i = started.length + (i + 1) := by
      intro i
      simp [Nat.add_comm, Nat.add_left_comm]
    refine ⟨fun i m' h => ?_, fun h => ?_, fun err h => ?_⟩
    · cases i with
      | zero => cases h; exact ⟨name, rfl, hf⟩
      | succ i => exact hplace i ▸ ih.attempted i m' h
    · obtain ⟨hclosed, hstarted, hlen⟩ := ih.success h
      exact ⟨hclosed, by simpa using hstarted, congrArg (· + 1) hlen⟩
    · obtain ⟨hclosed, ⟨k, name', cause, hk, hcreated, hc, his⟩, hclose⟩ := ih.failure err h
      refine ⟨by simpa using hclosed, ⟨k + 1, name', cause, hk, ?_, hplace k ▸ hc, his⟩, hclose⟩
      exact congrArg (name :: ·) hcreated

end Spz.Lifecycle
