import InteractiveFiction.Fault

/-!
The course of a computation that carries a state and may fail: where it ends, and what it leaves
alone on the way.

* `Course.outcome`, `Course.result`, `Course.fault?`, `Course.after`: what a computation gives in a
  state, the fault it fails with, and the state it leaves, also when it fails.
* `Result.FailsIn faults r`: a failure of `r` is one of `faults`.
* `Course.Confined view faults c`: whatever state `c` starts in, it leaves `view` of it as it is,
  and it fails only with `faults`.  The lemmas follow the ways in which computations are composed.
-/

set_option autoImplicit false

namespace InteractiveFiction

/-- Turns, actions and issues are computations of this kind. -/
abbrev Course (σ α : Type) := ExceptT Fault (StateM σ) α

/-! ## Failures of results -/

namespace Result

variable {α β : Type} {faults : Fault → Prop}

def FailsIn (faults : Fault → Prop) (r : Result α) : Prop :=
  ∀ fault, r = .error fault → faults fault

theorem FailsIn.pure (a : α) : FailsIn faults (pure a : Result α) := by
  intro fault failed
  cases failed

theorem FailsIn.ok (a : α) : FailsIn faults (.ok a : Result α) :=
  FailsIn.pure a

theorem FailsIn.throw {fault : Fault} (h : faults fault) :
    FailsIn faults (throw fault : Result α) := by
  intro fault' failed
  cases failed
  exact h

theorem FailsIn.bind {r : Result α} {f : α → Result β} (hr : FailsIn faults r)
    (hf : ∀ a, FailsIn faults (f a)) : FailsIn faults (r >>= f) := by
  intro fault failed
  cases r with
  | error _ =>
    cases failed
    exact hr _ rfl
  | ok a => exact hf a fault failed

theorem FailsIn.mapM {f : α → Result β} {items : List α}
    (each : ∀ item ∈ items, FailsIn faults (f item)) : FailsIn faults (items.mapM f) := by
  induction items with
  | nil => exact .pure []
  | cons item items ih =>
    rw [List.mapM_cons]
    refine .bind (each item (by simp)) fun _ => .bind (ih fun other mem => ?_) fun _ => .pure _
    exact each other (List.mem_cons_of_mem item mem)

theorem FailsIn.forM {f : α → Result Unit} {items : List α}
    (each : ∀ item ∈ items, FailsIn faults (f item)) : FailsIn faults (items.forM f) := by
  induction items with
  | nil => exact .pure ()
  | cons item items ih =>
    refine .bind (each item List.mem_cons_self) fun _ => ih fun other mem => ?_
    exact each other (List.mem_cons_of_mem item mem)

theorem FailsIn.foldlM {step : β → α → Result β} (each : ∀ b item, FailsIn faults (step b item))
    (items : List α) (first : β) : FailsIn faults (items.foldlM step first) := by
  induction items generalizing first with
  | nil => exact .pure first
  | cons item items ih =>
    rw [List.foldlM_cons]
    exact .bind (each first item) fun next => ih next

theorem FailsIn.weaken {r : Result α} {others : Fault → Prop} (h : FailsIn faults r)
    (imp : ∀ fault, faults fault → others fault) : FailsIn others r :=
  fun fault failed => imp fault (h fault failed)

/-! ### Results one after another -/

theorem ok_of_bind {r : Result α} {f : α → Result β} {b : β} (h : r >>= f = .ok b) :
    ∃ a, r = .ok a ∧ f a = .ok b := by
  cases r with
  | error fault => cases h
  | ok a => exact ⟨a, rfl, h⟩

theorem eq_ok_get {r : Result α} (h : r.toOption.isSome = true) : r = .ok (r.toOption.get h) := by
  cases r with
  | ok a => rfl
  | error fault => cases h

theorem ok_of_toOption {r : Result α} {a : α} (h : r.toOption = some a) : r = .ok a := by
  cases r with
  | ok b => exact congrArg Except.ok (Option.some.inj h)
  | error fault => cases h

theorem bind_of_ok {r : Result α} {a : α} (h : r = .ok a) (f : α → Result β) :
    r >>= f = f a := by
  rw [h]
  rfl

/-- What holds at first and is kept by each step that does not fail holds at the end. -/
theorem ok_of_foldlM {P : β → Prop} {step : β → α → Result β} {items : List α} {first last : β}
    (start : P first) (keeps : ∀ b, P b → ∀ item ∈ items, ∀ b', step b item = .ok b' → P b')
    (h : items.foldlM step first = .ok last) : P last := by
  induction items generalizing first with
  | nil =>
    cases h
    exact start
  | cons item items ih =>
    rw [List.foldlM_cons] at h
    obtain ⟨next, one, rest⟩ := ok_of_bind h
    have held := keeps first start item (by simp) next one
    exact ih held (fun b hb other mem => keeps b hb other (List.mem_cons_of_mem item mem)) rest

theorem ok_of_forM {f : α → Result Unit} {items : List α} (h : items.forM f = .ok ()) :
    ∀ item ∈ items, f item = .ok () := by
  induction items with
  | nil => exact nofun
  | cons item items ih =>
    obtain ⟨_, one, others⟩ := ok_of_bind h
    exact List.forall_mem_cons.2 ⟨one, ih others⟩

theorem ok_of_mapM {f : α → Result β} {items : List α} {results : List β}
    (h : items.mapM f = .ok results) : ∀ b ∈ results, ∃ a ∈ items, f a = .ok b := by
  induction items generalizing results with
  | nil =>
    cases h
    intro b mem
    cases mem
  | cons item items ih =>
    rw [List.mapM_cons] at h
    obtain ⟨b, one, h⟩ := ok_of_bind h
    obtain ⟨rest, others, h⟩ := ok_of_bind h
    cases h
    intro other mem
    rcases List.mem_cons.1 mem with rfl | mem
    · exact ⟨item, by simp, one⟩
    · obtain ⟨a, among, own⟩ := ih others other mem
      exact ⟨a, List.mem_cons_of_mem item among, own⟩

theorem mapM_map_ok {γ : Type} {f : β → Result γ} {g : α → β} {h : α → γ} {items : List α}
    (each : ∀ item ∈ items, f (g item) = .ok (h item)) :
    (items.map g).mapM f = .ok (items.map h) := by
  induction items with
  | nil => rfl
  | cons item items ih =>
    have rest := ih fun other mem => each other (List.mem_cons_of_mem item mem)
    rw [List.map_cons, List.mapM_cons, bind_of_ok (each item (by simp)), bind_of_ok rest]
    rfl

theorem mapM_map_of_ok {f : β → Result α} {g : α → β} {items : List α}
    (h : ∀ item ∈ items, f (g item) = .ok item) : (items.map g).mapM f = .ok items := by
  have written := mapM_map_ok h
  rwa [List.map_id'] at written

theorem filterM_of_ok {p : α → Result Bool} {items : List α}
    (each : ∀ a ∈ items, ∃ keep, p a = .ok keep) :
    items.filterM p = .ok (items.filter fun a => (p a).toOption.getD false) := by
  have kept (acc : List α) : items.filterAuxM p acc =
      .ok ((items.filter fun a => (p a).toOption.getD false).reverse ++ acc) := by
    induction items generalizing acc with
    | nil => rfl
    | cons item items ih =>
      obtain ⟨keep, one⟩ := each item (by simp)
      rw [List.filterAuxM, bind_of_ok one,
        ih (fun other mem => each other (List.mem_cons_of_mem item mem)), List.filter_cons, one]
      cases keep <;> simp [Except.toOption]
  rw [List.filterM, bind_of_ok (kept []), List.append_nil, List.reverse_reverse]
  rfl

theorem filterM_fails {p : α → Result Bool} {items : List α} {a : α} {fault : Fault}
    (mem : a ∈ items) (failed : p a = .error fault) :
    ∃ first, items.filterM p = .error first := by
  have stops (acc : List α) : ∃ first, items.filterAuxM p acc = .error first := by
    induction items generalizing acc with
    | nil => cases mem
    | cons item items ih =>
      rw [List.filterAuxM]
      cases one : p item with
      | error first => exact ⟨first, rfl⟩
      | ok keep =>
        rcases List.mem_cons.1 mem with rfl | mem
        · rw [failed] at one
          cases one
        · exact ih mem _
  obtain ⟨first, stopped⟩ := stops []
  refine ⟨first, ?_⟩
  rw [List.filterM, stopped]
  rfl

/-- A container is rebuilt from what is written of its entries, if each step adds the entry whose
turn it is after those that are there. -/
theorem foldlM_rebuilds {γ ε : Type} {entries : γ → List ε} {whole start : γ} {written : ε → β}
    {step : γ → β → Result γ} (same : ∀ known, entries known = entries whole → known = whole)
    (none : entries start = [])
    (adds : ∀ known entry rest, entries known ++ entry :: rest = entries whole →
      ∃ next, step known (written entry) = .ok next ∧ entries next = entries known ++ [entry]) :
    ((entries whole).map written).foldlM step start = .ok whole := by
  have rebuild : ∀ (rest : List ε) (known : γ), entries known ++ rest = entries whole →
      (rest.map written).foldlM step known = .ok whole := by
    intro rest
    induction rest with
    | nil =>
      intro known all
      rw [List.append_nil] at all
      rw [same known all]
      rfl
    | cons entry rest ih =>
      intro known all
      obtain ⟨next, one, more⟩ := adds known entry rest all
      rw [List.map_cons, List.foldlM_cons, bind_of_ok one]
      apply ih
      rw [more, List.append_assoc]
      exact all
  apply rebuild
  rw [none]
  rfl

end Result

namespace Course

variable {σ α β γ δ : Type}

/-! ## Where a computation ends -/

def outcome (c : Course σ α) (s : σ) : Except Fault α × σ :=
  c.run.run s

/-- What a computation gives, or the fault it fails with. -/
def result (c : Course σ α) (s : σ) : Except Fault α :=
  (outcome c s).1

def after (c : Course σ α) (s : σ) : σ :=
  (outcome c s).2

def fault? (c : Course σ α) (s : σ) : Option Fault :=
  match result c s with
  | .ok _ => none
  | .error fault => some fault

theorem outcome_of_fault? {c : Course σ α} {s : σ} {fault : Fault} (h : fault? c s = some fault) :
    outcome c s = (.error fault, after c s) := by
  unfold fault? at h
  cases hr : result c s with
  | ok a =>
    rw [hr] at h
    cases h
  | error fault' =>
    rw [hr] at h
    cases h
    exact Prod.ext hr rfl

theorem ok_of_no_fault {c : Course σ α} {s : σ} (h : fault? c s = none) :
    ∃ a, outcome c s = (.ok a, after c s) := by
  unfold fault? at h
  cases hr : result c s with
  | ok a => exact ⟨a, Prod.ext hr rfl⟩
  | error fault =>
    rw [hr] at h
    cases h

theorem outcome_eq (c : Course σ α) (s : σ) : outcome c s = (result c s, after c s) := rfl

@[simp] theorem outcome_throw (fault : Fault) (s : σ) :
    outcome (throw fault : Course σ α) s = (.error fault, s) := rfl

@[simp] theorem outcome_get (s : σ) : outcome (get : Course σ σ) s = (.ok s, s) := rfl

theorem outcome_bind (c : Course σ α) (f : α → Course σ β) (s : σ) :
    outcome (c >>= f) s =
      match outcome c s with
      | (.ok a, s') => outcome (f a) s'
      | (.error fault, s') => (.error fault, s') := by
  simp only [outcome, ExceptT.run_bind, StateT.run_bind]
  rcases StateT.run (ExceptT.run c) s with ⟨r, s'⟩
  cases r <;> rfl

theorem outcome_bind_of_ok {c : Course σ α} {s s' : σ} {a : α} (h : outcome c s = (.ok a, s'))
    (f : α → Course σ β) : outcome (c >>= f) s = outcome (f a) s' := by
  rw [outcome_bind, h]

theorem outcome_bind_of_error {c : Course σ α} {s s' : σ} {fault : Fault}
    (h : outcome c s = (.error fault, s')) (f : α → Course σ β) :
    outcome (c >>= f) s = (.error fault, s') := by
  rw [outcome_bind, h]

theorem ok_of_outcome_bind {c : Course σ α} {f : α → Course σ β} {s s'' : σ} {b : β}
    (h : outcome (c >>= f) s = (.ok b, s'')) :
    ∃ a s', outcome c s = (.ok a, s') ∧ outcome (f a) s' = (.ok b, s'') := by
  rw [outcome_bind] at h
  rcases ends : outcome c s with ⟨r, s'⟩
  rw [ends] at h
  cases r with
  | ok a => exact ⟨a, s', rfl, h⟩
  | error fault => cases h

theorem error_of_outcome_bind {c : Course σ α} {f : α → Course σ β} {s s'' : σ} {fault : Fault}
    (h : outcome (c >>= f) s = (.error fault, s'')) :
    outcome c s = (.error fault, s'') ∨
      ∃ a s', outcome c s = (.ok a, s') ∧ outcome (f a) s' = (.error fault, s'') := by
  rw [outcome_bind] at h
  rcases ends : outcome c s with ⟨r, s'⟩
  rw [ends] at h
  cases r with
  | ok a => exact .inr ⟨a, s', rfl, h⟩
  | error fault =>
    cases h
    exact .inl rfl

/-- What is done item by item fails at an item that is reached. -/
theorem outcome_mapM_error_iff {f : β → Course σ α} {l : List β} {s last : σ} {fault : Fault} :
    outcome (l.mapM f) s = (.error fault, last) ↔
      ∃ front b back told middle, l = front ++ b :: back ∧
        outcome (front.mapM f) s = (.ok told, middle) ∧
        outcome (f b) middle = (.error fault, last) := by
  constructor
  · intro h
    induction l generalizing s with
    | nil => cases h
    | cons b l ih =>
      rw [List.mapM_cons] at h
      rcases error_of_outcome_bind h with first | ⟨a, between, one, h⟩
      · exact ⟨[], b, l, [], s, rfl, rfl, first⟩
      · rcases error_of_outcome_bind h with rest | ⟨as, _, _, h⟩
        · obtain ⟨front, c, back, told, middle, rfl, before, fails⟩ := ih rest
          refine ⟨b :: front, c, back, a :: told, middle, rfl, ?_, fails⟩
          rw [List.mapM_cons, outcome_bind_of_ok one, outcome_bind_of_ok before]
          rfl
        · cases h
  · rintro ⟨front, b, back, told, middle, rfl, before, fails⟩
    rw [List.mapM_append, outcome_bind_of_ok before, List.mapM_cons, outcome_bind,
      outcome_bind_of_error fails]

theorem outcome_tryCatch (c : Course σ α) (handle : Fault → Course σ α) (s : σ) :
    outcome (tryCatch c handle) s =
      match outcome c s with
      | (.ok a, s') => (.ok a, s')
      | (.error fault, s') => outcome (handle fault) s' := by
  simp only [outcome, ExceptT.run_tryCatch, StateT.run_bind]
  rcases StateT.run (ExceptT.run c) s with ⟨r, s'⟩
  cases r <;> rfl

/-! ## What a computation leaves alone -/

/-- A computation that leaves a view of the state as it is, and fails only with certain faults. -/
structure Confined (view : σ → γ) (faults : Fault → Prop) (c : Course σ α) : Prop where
  keeps : ∀ s, view (after c s) = view s
  fails : ∀ s, Result.FailsIn faults (result c s)

namespace Confined

variable {view : σ → γ} {faults : Fault → Prop} {c : Course σ α}

theorem of_outcome (h : Confined view faults c) {s s' : σ} {r : Except Fault α}
    (ends : outcome c s = (r, s')) : view s' = view s ∧ Result.FailsIn faults r := by
  have keeps := h.keeps s
  have fails := h.fails s
  rw [outcome_eq] at ends
  cases ends
  exact ⟨keeps, fails⟩

theorem intro
    (h : ∀ s, view (outcome c s).2 = view s ∧ Result.FailsIn faults (outcome c s).1) :
    Confined view faults c :=
  ⟨fun s => (h s).1, fun s => (h s).2⟩

theorem pure (a : α) : Confined view faults (pure a : Course σ α) :=
  intro fun _ => ⟨rfl, .pure a⟩

theorem throw {fault : Fault} (h : faults fault) :
    Confined view faults (throw fault : Course σ α) :=
  intro fun _ => ⟨rfl, .throw h⟩

theorem get : Confined view faults (get : Course σ σ) :=
  intro fun s => ⟨rfl, .ok s⟩

theorem modify {f : σ → σ} (h : ∀ s, view (f s) = view s) :
    Confined view faults (modify f : Course σ Unit) :=
  intro fun s => ⟨h s, .ok ()⟩

theorem bind {f : α → Course σ β} (hc : Confined view faults c)
    (hf : ∀ a, Confined view faults (f a)) : Confined view faults (c >>= f) := by
  refine intro fun s => ?_
  rw [outcome_bind]
  rcases ends : outcome c s with ⟨r, s'⟩
  obtain ⟨keeps, fails⟩ := hc.of_outcome ends
  cases r with
  | ok a => exact ⟨((hf a).keeps s').trans keeps, (hf a).fails s'⟩
  | error fault => exact ⟨keeps, .throw (fails fault rfl)⟩

/-- It is enough that the first part is confined where it starts. -/
theorem of_outcome_bind {f : α → Course σ β} (hf : ∀ a, Confined view faults (f a)) {s s' : σ}
    {r : Except Fault β} (ends : outcome (c >>= f) s = (r, s')) (keeps : view (after c s) = view s)
    (fails : Result.FailsIn faults (result c s)) : view s' = view s ∧ Result.FailsIn faults r := by
  rw [outcome_bind, outcome_eq] at ends
  cases hr : result c s with
  | ok a =>
    rw [hr] at ends
    obtain ⟨kept, failsIn⟩ := (hf a).of_outcome ends
    exact ⟨kept.trans keeps, failsIn⟩
  | error fault =>
    rw [hr] at ends
    cases ends
    exact ⟨keeps, .throw (fails fault hr)⟩

theorem tryCatch {handle : Fault → Course σ α} {others : Fault → Prop}
    (hc : Confined view others c)
    (hh : ∀ fault, others fault → Confined view faults (handle fault)) :
    Confined view faults (tryCatch c handle) := by
  refine intro fun s => ?_
  rw [outcome_tryCatch]
  rcases ends : outcome c s with ⟨r, s'⟩
  obtain ⟨keeps, fails⟩ := hc.of_outcome ends
  cases r with
  | ok a => exact ⟨keeps, .ok a⟩
  | error fault =>
    have h := hh fault (fails fault rfl)
    exact ⟨(h.keeps s').trans keeps, h.fails s'⟩

theorem weaken {others : Fault → Prop} (h : Confined view faults c)
    (imp : ∀ fault, faults fault → others fault) : Confined view others c :=
  ⟨h.keeps, fun s => (h.fails s).weaken imp⟩

/-- What leaves a view alone leaves alone what is seen in that view. -/
theorem through {other : σ → δ} (h : Confined view faults c)
    (sees : ∀ s t, view s = view t → other s = other t) : Confined other faults c :=
  ⟨fun s => sees _ _ (h.keeps s), h.fails⟩

theorem and {other : σ → δ} (h : Confined view faults c) (h' : Confined other faults c) :
    Confined (fun s => (view s, other s)) faults c :=
  ⟨fun s => Prod.ext (h.keeps s) (h'.keeps s), h.fails⟩

theorem branch {p : Prop} [Decidable p] {c' : Course σ α} (hc : Confined view faults c)
    (hc' : Confined view faults c') : Confined view faults (if p then c else c') := by
  split
  · exact hc
  · exact hc'

/-- What only reads leaves the state as it found it. -/
theorem after_eq {c : Course σ α} (h : Confined (fun s => s) faults c) (s : σ) : after c s = s :=
  h.keeps s

/-! ### Loops -/

theorem forIn {f : β → α → Course σ (ForInStep α)} (l : List β) (init : α)
    (h : ∀ b ∈ l, ∀ a, Confined view faults (f b a)) :
    Confined view faults (forIn l init f) := by
  induction l generalizing init with
  | nil => exact .pure init
  | cons b l ih =>
    rw [List.forIn_cons]
    refine (h b (by simp) init).bind fun step => ?_
    cases step with
    | done a => exact .pure a
    | yield a => exact ih a fun b hb => h b (by simp [hb])

theorem mapM {f : β → Course σ α} (l : List β) (h : ∀ b ∈ l, Confined view faults (f b)) :
    Confined view faults (l.mapM f) := by
  induction l with
  | nil => exact .pure []
  | cons b l ih =>
    rw [List.mapM_cons]
    refine (h b (by simp)).bind fun a => ?_
    exact (ih fun b hb => h b (by simp [hb])).bind fun as => .pure (a :: as)

end Confined

end Course

end InteractiveFiction
