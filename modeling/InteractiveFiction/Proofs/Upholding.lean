import InteractiveFiction.Proofs.Course

/-!
Computations under an invariant.

`Course.Upholds inv gives c`: started in a state of which `inv` holds, `c` leaves one of which it
holds, also when it fails; and when it does not fail, `gives` holds of what it gives.
`Result.Gives gives r` says the latter of a result, and `Course.Delivers gives c` that `c` never
fails and `gives` holds of what it gives.  The lemmas follow the ways in which computations are
composed: what a part gives is known to what follows.
-/

set_option autoImplicit false

namespace InteractiveFiction

/-- Nothing is asked of what is given. -/
abbrev Anything {α : Type} : α → Prop := fun _ => True

/-! ## Results -/

namespace Result

variable {α β : Type} {gives : α → Prop}

def Gives (gives : α → Prop) (r : Result α) : Prop :=
  ∀ a, r = .ok a → gives a

namespace Gives

theorem anything (r : Result α) : Gives Anything r :=
  fun _ _ => trivial

theorem pure {a : α} (h : gives a) : Gives gives (pure a : Result α) := by
  intro a' ended
  cases ended
  exact h

theorem throw (fault : Fault) : Gives gives (throw fault : Result α) := by
  intro a ended
  cases ended

/-- What follows a fault is never reached. -/
theorem of_throw (fault : Fault) (f : β → Result α) : Gives gives (.error fault >>= f) := by
  intro a ended
  cases ended

theorem bind {gives' : β → Prop} {r : Result α} {f : α → Result β} (hr : Gives gives r)
    (hf : ∀ a, gives a → Gives gives' (f a)) : Gives gives' (r >>= f) := by
  intro b ended
  obtain ⟨a, first, rest⟩ := ok_of_bind ended
  exact hf a (hr a first) b rest

theorem mapM {gives' : β → Prop} {f : α → Result β} {items : List α}
    (h : ∀ item ∈ items, Gives gives' (f item)) :
    Gives (fun bs => ∀ b ∈ bs, gives' b) (items.mapM f) := by
  intro bs ended b mem
  obtain ⟨item, among, own⟩ := ok_of_mapM ended b mem
  exact h item among b own

end Gives

end Result

/-! ## Computations -/

namespace Course

variable {σ α β : Type}

def Upholds (inv : σ → Prop) (gives : α → Prop) (c : Course σ α) : Prop :=
  ∀ s, inv s → inv (after c s) ∧ ∀ a, result c s = .ok a → gives a

namespace Upholds

variable {inv : σ → Prop} {gives : α → Prop} {c : Course σ α}

theorem of_outcome (h : Upholds inv gives c) {s s' : σ} {r : Except Fault α} (start : inv s)
    (ends : outcome c s = (r, s')) : inv s' ∧ ∀ a, r = .ok a → gives a := by
  have held := h s start
  rw [after, result, ends] at held
  exact held

theorem intro (h : ∀ s, inv s → inv (outcome c s).2 ∧ ∀ a, (outcome c s).1 = .ok a → gives a) :
    Upholds inv gives c :=
  h

theorem weaken {gives' : α → Prop} (h : Upholds inv gives c) (imp : ∀ a, gives a → gives' a) :
    Upholds inv gives' c := by
  intro s start
  obtain ⟨kept, given⟩ := h s start
  exact ⟨kept, fun a ended => imp a (given a ended)⟩

theorem any (h : Upholds inv gives c) : Upholds inv Anything c :=
  h.weaken fun _ _ => trivial

theorem pure {a : α} (h : gives a) : Upholds inv gives (pure a : Course σ α) := by
  intro s start
  refine ⟨start, fun a' ended => ?_⟩
  cases ended
  exact h

theorem throw (fault : Fault) : Upholds inv gives (throw fault : Course σ α) := by
  intro s start
  refine ⟨start, fun a ended => ?_⟩
  cases ended

/-- What a result gives, without a step of its own. -/
theorem of_result {r : Result α} (ends : ∀ s, outcome c s = (r, s)) (h : r.Gives gives) :
    Upholds inv gives c := by
  refine intro fun s start => ?_
  rw [ends s]
  exact ⟨start, h⟩

theorem get : Upholds inv inv (get : Course σ σ) := by
  intro s start
  refine ⟨start, fun a ended => ?_⟩
  cases ended
  exact start

theorem modify {f : σ → σ} (h : ∀ s, inv s → inv (f s)) :
    Upholds inv Anything (modify f : Course σ Unit) :=
  fun s start => ⟨h s start, fun _ _ => trivial⟩

theorem bind {gives' : β → Prop} {f : α → Course σ β} (hc : Upholds inv gives c)
    (hf : ∀ a, gives a → Upholds inv gives' (f a)) : Upholds inv gives' (c >>= f) := by
  refine intro fun s start => ?_
  rw [outcome_bind]
  rcases ends : outcome c s with ⟨r, s'⟩
  obtain ⟨kept, given⟩ := hc.of_outcome start ends
  cases r with
  | ok a => exact hf a (given a rfl) s' kept
  | error fault => exact ⟨kept, nofun⟩

/-- What follows a fault is never reached. -/
theorem of_throw (fault : Fault) (f : β → Course σ α) :
    Upholds inv gives (MonadExcept.throw fault >>= f) := by
  intro s start
  refine ⟨start, fun a ended => ?_⟩
  cases ended

theorem tryCatch {handle : Fault → Course σ α} (hc : Upholds inv gives c)
    (hh : ∀ fault, Upholds inv gives (handle fault)) : Upholds inv gives (tryCatch c handle) := by
  refine intro fun s start => ?_
  rw [outcome_tryCatch]
  rcases ends : outcome c s with ⟨r, s'⟩
  have held := hc.of_outcome start ends
  cases r with
  | ok a => exact held
  | error fault => exact hh fault s' held.1

theorem branch {p : Prop} [Decidable p] {c' : Course σ α} (hc : Upholds inv gives c)
    (hc' : Upholds inv gives c') : Upholds inv gives (if p then c else c') := by
  split
  · exact hc
  · exact hc'

theorem forIn {f : β → α → Course σ (ForInStep α)} (l : List β) (init : α)
    (h : ∀ b ∈ l, ∀ a, Upholds inv Anything (f b a)) :
    Upholds inv Anything (forIn l init f) := by
  induction l generalizing init with
  | nil => exact pure trivial
  | cons b l ih =>
    rw [List.forIn_cons]
    refine bind (h b (by simp) init) fun step _ => ?_
    cases step with
    | done a => exact pure trivial
    | yield a => exact ih a fun b hb => h b (by simp [hb])

theorem mapM {f : β → Course σ α} (l : List β) (h : ∀ b ∈ l, Upholds inv gives (f b)) :
    Upholds inv (fun as => ∀ a ∈ as, gives a) (l.mapM f) := by
  induction l with
  | nil => exact pure nofun
  | cons b l ih =>
    rw [List.mapM_cons]
    refine bind (h b (by simp)) fun a own => ?_
    refine bind (ih fun b hb => h b (by simp [hb])) fun as others => pure ?_
    intro a' mem
    rcases List.mem_cons.1 mem with rfl | mem
    · exact own
    · exact others a' mem

/-- What each item tells of what it gives, all of them tell in their order. -/
theorem map_mapM {γ : Type} {f : β → Course σ α} {told : α → γ} {tells : β → γ} (l : List β)
    (h : ∀ b ∈ l, Upholds inv (fun a => told a = tells b) (f b)) :
    Upholds inv (fun as => as.map told = l.map tells) (l.mapM f) := by
  induction l with
  | nil => exact pure rfl
  | cons b l ih =>
    rw [List.mapM_cons]
    have rest := ih fun b' mem => h b' (List.mem_cons_of_mem b mem)
    refine bind (h b List.mem_cons_self) fun a own => bind rest fun as others => pure ?_
    rw [List.map_cons, List.map_cons, own, others]

/-! ### Where nothing is asked of the state -/

theorem anything (c : Course σ α) : Upholds (fun _ => True) Anything c :=
  fun _ _ => ⟨trivial, fun _ _ => trivial⟩

/-- What a computation ends with is all that counts. -/
theorem last {gives' : β → Prop} {f : α → Course σ β}
    (h : ∀ a, Upholds (fun _ => True) gives' (f a)) : Upholds (fun _ => True) gives' (c >>= f) :=
  bind (anything c) fun a _ => h a

end Upholds

/-! ## Computations that never fail -/

/-- In whatever state it starts, a computation gives something, and `gives` holds of it. -/
def Delivers (gives : α → Prop) (c : Course σ α) : Prop :=
  ∀ s, ∃ a s', outcome c s = (.ok a, s') ∧ gives a

namespace Delivers

variable {gives : α → Prop} {c : Course σ α}

theorem result_eq {a : α} (h : Delivers (· = a) c) (s : σ) : result c s = .ok a := by
  obtain ⟨b, s', ends, rfl⟩ := h s
  rw [result, ends]

theorem upholds (h : Delivers gives c) : Upholds (fun _ => True) gives c := by
  refine .intro fun s _ => ⟨trivial, ?_⟩
  obtain ⟨a, s', ends, given⟩ := h s
  rw [ends]
  rintro _ ⟨⟩
  exact given

theorem weaken {gives' : α → Prop} (h : Delivers gives c) (imp : ∀ a, gives a → gives' a) :
    Delivers gives' c := by
  intro s
  obtain ⟨a, s', ends, given⟩ := h s
  exact ⟨a, s', ends, imp a given⟩

theorem pure {a : α} (h : gives a) : Delivers gives (pure a : Course σ α) :=
  fun s => ⟨a, s, rfl, h⟩

theorem bind {gives' : β → Prop} {f : α → Course σ β} (hc : Delivers gives c)
    (hf : ∀ a, gives a → Delivers gives' (f a)) : Delivers gives' (c >>= f) := by
  intro s
  obtain ⟨a, s', ends, given⟩ := hc s
  rw [outcome_bind_of_ok ends]
  exact hf a given s'

/-- What follows a step of which the value is known. -/
theorem next {gives' : β → Prop} {a : α} {f : α → Course σ β} (hc : Delivers (· = a) c)
    (hf : Delivers gives' (f a)) : Delivers gives' (c >>= f) :=
  hc.bind fun _ same => same ▸ hf

theorem branch {p : Prop} [Decidable p] {c' : Course σ α} (hc : Delivers gives c)
    (hc' : Delivers gives c') : Delivers gives (if p then c else c') := by
  split
  · exact hc
  · exact hc'

/-- What is caught does not count where the handling never fails. -/
theorem tryCatch {handle : Fault → Course σ α} (h : ∀ fault, Delivers Anything (handle fault)) :
    Delivers Anything (tryCatch c handle) := by
  intro s
  rw [outcome_tryCatch]
  rcases outcome c s with ⟨_ | a, s'⟩
  · exact h _ s'
  · exact ⟨a, s', rfl, trivial⟩

theorem forIn {f : β → α → Course σ (ForInStep α)} (l : List β) (init : α)
    (h : ∀ b a, Delivers Anything (f b a)) : Delivers Anything (forIn l init f) := by
  induction l generalizing init with
  | nil => exact pure trivial
  | cons b l ih =>
    rw [List.forIn_cons]
    refine bind (h b init) fun step _ => ?_
    cases step with
    | done a => exact pure trivial
    | yield a => exact ih a

theorem mapM {f : β → Course σ α} (l : List β) (h : ∀ b, Delivers Anything (f b)) :
    Delivers Anything (l.mapM f) := by
  induction l with
  | nil => exact pure trivial
  | cons b l ih =>
    rw [List.mapM_cons]
    exact bind (h b) fun _ _ => bind ih fun _ _ => pure trivial

theorem mapM_map {γ δ : Type} {f : β → Course σ γ} {g : α → β} {told : γ → δ} {tells : α → δ}
    {items : List α} (each : ∀ item ∈ items, Delivers (fun c => told c = tells item) (f (g item))) :
    Delivers (fun cs => cs.map told = items.map tells) ((items.map g).mapM f) := by
  induction items with
  | nil => exact pure rfl
  | cons item items ih =>
    have rest := ih fun other mem => each other (List.mem_cons_of_mem item mem)
    rw [List.map_cons (f := g), List.mapM_cons]
    refine (each item (by simp)).bind fun c own => rest.bind fun cs others => pure ?_
    rw [List.map_cons, List.map_cons, own, others]

/-- The same where it is known what is given for each item. -/
theorem mapM_map_eq {γ : Type} {f : β → Course σ γ} {g : α → β} {h : α → γ} {items : List α}
    (each : ∀ item ∈ items, Delivers (· = h item) (f (g item))) :
    Delivers (· = items.map h) ((items.map g).mapM f) := by
  have all : Delivers (fun cs : List γ => cs.map id = items.map h) ((items.map g).mapM f) :=
    mapM_map each
  simpa only [List.map_id] using all

end Delivers

end Course

end InteractiveFiction
