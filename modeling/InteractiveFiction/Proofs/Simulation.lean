import InteractiveFiction.Proofs.Course
import Mathlib.Data.List.Forall2

/-!
Computations side by side, and computations along a relation.

* `Course.Matches rel val c c'`: started in states that `rel` relates, `c` and `c'` give values that
  `val` relates, or fail with the same fault, and leave states that `rel` relates again.
* `Course.Tracks rel c c'`: so, and the values are the same.
* `Course.Advances rel c`: `c` never fails, and leaves a state that `rel` relates to the one it
  started in.
* `Course.Leads rel c`: `c` leaves a state that `rel` relates to the one it started in, also when it
  fails.

The lemmas follow the ways in which computations are composed.
-/

set_option autoImplicit false

namespace InteractiveFiction

namespace Result

variable {α β : Type}

/-- Values that `val` relates, or the same fault. -/
inductive Alike (val : α → β → Prop) : Result α → Result β → Prop where
  | ok {a : α} {b : β} (h : val a b) : Alike val (.ok a) (.ok b)
  | error (fault : Fault) : Alike val (.error fault) (.error fault)

theorem Alike.mono {val other : α → β → Prop} (imp : ∀ a b, val a b → other a b) {r : Result α}
    {r' : Result β} (h : Alike val r r') : Alike other r r' := by
  cases h with
  | ok h => exact .ok (imp _ _ h)
  | error fault => exact .error fault

theorem alike_eq_iff {r r' : Result α} : Alike Eq r r' ↔ r = r' := by
  constructor
  · rintro (same | fault)
    · rw [same]
    · rfl
  · rintro rfl
    cases r with
    | ok a => exact .ok rfl
    | error fault => exact .error fault

end Result

namespace Course

variable {σ τ α α' β β' : Type}

/-! ## Side by side, to values alike -/

def Matches (rel : σ → τ → Prop) (val : α → α' → Prop) (c : Course σ α) (c' : Course τ α') : Prop :=
  ∀ s t, rel s t → Result.Alike val (result c s) (result c' t) ∧ rel (after c s) (after c' t)

namespace Matches

variable {rel : σ → τ → Prop} {val : α → α' → Prop} {other : β → β' → Prop} {c : Course σ α}
  {c' : Course τ α'}

theorem of_outcome (h : Matches rel val c c') {s s' : σ} {t : τ} {r : Except Fault α}
    (start : rel s t) (ends : outcome c s = (r, s')) :
    ∃ r' t', outcome c' t = (r', t') ∧ Result.Alike val r r' ∧ rel s' t' := by
  obtain ⟨alike, related⟩ := h s t start
  have isResult : result c s = r := congrArg Prod.fst ends
  have isAfter : after c s = s' := congrArg Prod.snd ends
  rw [isResult] at alike
  rw [isAfter] at related
  exact ⟨_, _, rfl, alike, related⟩

theorem intro
    (h : ∀ s t, rel s t → ∃ r s' r' t', outcome c s = (r, s') ∧ outcome c' t = (r', t') ∧
      Result.Alike val r r' ∧ rel s' t') : Matches rel val c c' := by
  intro s t start
  obtain ⟨r, s', r', t', ends, ends', alike, related⟩ := h s t start
  rw [result, result, after, after, ends, ends']
  exact ⟨alike, related⟩

theorem pure {a : α} {a' : α'} (h : val a a') :
    Matches rel val (pure a : Course σ α) (pure a' : Course τ α') :=
  fun _ _ start => ⟨.ok h, start⟩

theorem mono {val' : α → α' → Prop} (h : Matches rel val c c') (imp : ∀ a a', val a a' → val' a a') :
    Matches rel val' c c' :=
  fun s t start => ⟨(h s t start).1.mono imp, (h s t start).2⟩

theorem bind {f : α → Course σ β} {f' : α' → Course τ β'} (hc : Matches rel val c c')
    (hf : ∀ a a', val a a' → Matches rel other (f a) (f' a')) :
    Matches rel other (c >>= f) (c' >>= f') := by
  refine intro fun s t start => ?_
  rcases ends : outcome c s with ⟨r, s₁⟩
  obtain ⟨r', t₁, ends', alike, related⟩ := hc.of_outcome start ends
  cases alike with
  | error fault =>
    exact ⟨.error fault, s₁, .error fault, t₁, outcome_bind_of_error ends f,
      outcome_bind_of_error ends' f', .error fault, related⟩
  | ok h =>
    rename_i a a'
    rcases last : outcome (f a) s₁ with ⟨b, s₂⟩
    obtain ⟨b', t₂, last', alike', related'⟩ := (hf a a' h).of_outcome related last
    refine ⟨b, s₂, b', t₂, ?_, ?_, alike', related'⟩
    · rw [outcome_bind_of_ok ends, last]
    · rw [outcome_bind_of_ok ends', last']

theorem tryCatch {handle : Fault → Course σ α} {handle' : Fault → Course τ α'}
    (hc : Matches rel val c c') (hh : ∀ fault, Matches rel val (handle fault) (handle' fault)) :
    Matches rel val (tryCatch c handle) (tryCatch c' handle') := by
  intro s t start
  rcases ends : outcome c s with ⟨r, s₁⟩
  obtain ⟨r', t₁, ends', alike, related⟩ := hc.of_outcome start ends
  rw [result, result, after, after, outcome_tryCatch, outcome_tryCatch, ends, ends']
  cases alike with
  | ok h => exact ⟨.ok h, related⟩
  | error fault => exact hh fault s₁ t₁ related

/-- What goes first on one side only may do nothing that shows. -/
theorem bind_left {gives : β → Prop} {d : Course σ β} {f : β → Course σ α}
    (first : ∀ s t, rel s t → ∃ b s', outcome d s = (.ok b, s') ∧ gives b ∧ rel s' t)
    (next : ∀ b, gives b → Matches rel val (f b) c') : Matches rel val (d >>= f) c' := by
  intro s t start
  obtain ⟨b, s', ends, given, related⟩ := first s t start
  rw [result, after, outcome_bind_of_ok ends]
  exact next b given s' t related

theorem throw (fault : Fault) :
    Matches rel val (throw fault : Course σ α) (throw fault : Course τ α') :=
  fun _ _ start => ⟨.error fault, start⟩

theorem branch {p : Prop} [Decidable p] {d : Course σ α} {d' : Course τ α'}
    (hc : Matches rel val c c') (hd : Matches rel val d d') :
    Matches rel val (if p then c else d) (if p then c' else d') := by
  split
  · exact hc
  · exact hd

/-- What follows may depend on the states, if it does so alike in related ones. -/
theorem get {f : σ → Course σ α} {f' : τ → Course τ α'}
    (h : ∀ s t, rel s t → Matches rel val (f s) (f' t)) :
    Matches rel val (get >>= f) (get >>= f') := by
  intro s t start
  have here : outcome (MonadState.get >>= f) s = outcome (f s) s :=
    outcome_bind_of_ok (outcome_get s) f
  have there : outcome (MonadState.get >>= f') t = outcome (f' t) t :=
    outcome_bind_of_ok (outcome_get t) f'
  have step := h s t start s t start
  rw [result, after, here, result, after, there]
  exact step

theorem mapM {f : β → Course σ α} {f' : β → Course τ α'} (l : List β)
    (h : ∀ b ∈ l, Matches rel val (f b) (f' b)) :
    Matches rel (List.Forall₂ val) (l.mapM f) (l.mapM f') := by
  induction l with
  | nil => exact pure .nil
  | cons b l ih =>
    rw [List.mapM_cons, List.mapM_cons]
    refine (h b (by simp)).bind fun a a' one => ?_
    refine (ih fun b hb => h b (by simp [hb])).bind fun as as' rest => ?_
    exact pure (.cons one rest)

end Matches

/-! ## Side by side -/

def Tracks (rel : σ → τ → Prop) (c : Course σ α) (c' : Course τ α) : Prop :=
  ∀ s t, rel s t → result c s = result c' t ∧ rel (after c s) (after c' t)

namespace Tracks

variable {rel : σ → τ → Prop} {c : Course σ α} {c' : Course τ α}

theorem of_outcome (h : Tracks rel c c') {s s' : σ} {t : τ} {r : Except Fault α} (start : rel s t)
    (ends : outcome c s = (r, s')) : ∃ t', outcome c' t = (r, t') ∧ rel s' t' := by
  obtain ⟨same, related⟩ := h s t start
  have isResult : result c s = r := congrArg Prod.fst ends
  have isAfter : after c s = s' := congrArg Prod.snd ends
  rw [isResult] at same
  rw [isAfter] at related
  exact ⟨after c' t, Prod.ext same.symm rfl, related⟩

theorem matching (h : Tracks rel c c') : Matches rel Eq c c' :=
  fun s t start => ⟨Result.alike_eq_iff.2 (h s t start).1, (h s t start).2⟩

theorem matching_of {gives : α → Prop} (h : Tracks rel c c')
    (told : ∀ s a, result c s = .ok a → gives a) :
    Matches rel (fun a a' => a = a' ∧ gives a) c c' := by
  intro s t start
  obtain ⟨same, related⟩ := h s t start
  refine ⟨?_, related⟩
  rw [← same]
  cases given : result c s with
  | ok a => exact .ok ⟨rfl, told s a given⟩
  | error fault => exact .error fault

theorem of_matching (h : Matches rel Eq c c') : Tracks rel c c' :=
  fun s t start => ⟨Result.alike_eq_iff.1 (h s t start).1, (h s t start).2⟩

theorem intro
    (h : ∀ s t, rel s t → ∃ r s' t', outcome c s = (r, s') ∧ outcome c' t = (r, t') ∧ rel s' t') :
    Tracks rel c c' := by
  intro s t start
  obtain ⟨r, s', t', ends, ends', related⟩ := h s t start
  rw [result, result, after, after, ends, ends']
  exact ⟨rfl, related⟩

theorem pure (a : α) : Tracks rel (pure a) (pure a) :=
  fun _ _ start => ⟨rfl, start⟩

theorem throw (fault : Fault) : Tracks rel (throw fault : Course σ α) (throw fault) :=
  fun _ _ start => ⟨rfl, start⟩

theorem modify {f : σ → σ} {g : τ → τ} (h : ∀ s t, rel s t → rel (f s) (g t)) :
    Tracks rel (modify f : Course σ Unit) (modify g) :=
  fun s t start => ⟨rfl, h s t start⟩

/-- Values alike may be followed by the same. -/
theorem bind_of_matches {val : β → β' → Prop} {d : Course σ β} {d' : Course τ β'}
    {f : β → Course σ α} {f' : β' → Course τ α} (hd : Matches rel val d d')
    (hf : ∀ b b', val b b' → Tracks rel (f b) (f' b')) : Tracks rel (d >>= f) (d' >>= f') :=
  of_matching (hd.bind fun b b' h => (hf b b' h).matching)

theorem bind {f : α → Course σ β} {f' : α → Course τ β} (hc : Tracks rel c c')
    (hf : ∀ a, Tracks rel (f a) (f' a)) : Tracks rel (c >>= f) (c' >>= f') := by
  refine bind_of_matches hc.matching fun a _ same => ?_
  rw [← same]
  exact hf a

theorem get {f : σ → Course σ β} {f' : τ → Course τ β}
    (h : ∀ s t, rel s t → Tracks rel (f s) (f' t)) : Tracks rel (get >>= f) (get >>= f') :=
  of_matching (.get fun s t start => (h s t start).matching)

/-- From states that were set, under a relation of their own. -/
theorem set {rel' : σ → τ → Prop} {f : Unit → Course σ β} {f' : Unit → Course τ β} {s : σ} {t : τ}
    (start : rel' s t) (imp : ∀ s t, rel' s t → rel s t) (h : Tracks rel' (f ()) (f' ())) :
    Tracks rel (set s >>= f) (set t >>= f') := by
  intro _ _ _
  obtain ⟨same, related⟩ := h s t start
  exact ⟨same, imp _ _ related⟩

theorem tryCatch {handle : Fault → Course σ α} {handle' : Fault → Course τ α}
    (hc : Tracks rel c c') (hh : ∀ fault, Tracks rel (handle fault) (handle' fault)) :
    Tracks rel (tryCatch c handle) (tryCatch c' handle') :=
  of_matching (hc.matching.tryCatch fun fault => (hh fault).matching)

theorem branch {p : Prop} [Decidable p] {d : Course σ α} {d' : Course τ α} (hc : Tracks rel c c')
    (hd : Tracks rel d d') : Tracks rel (if p then c else d) (if p then c' else d') := by
  split
  · exact hc
  · exact hd

theorem forIn {f : β → α → Course σ (ForInStep α)} {f' : β → α → Course τ (ForInStep α)}
    (l : List β) (init : α) (h : ∀ b ∈ l, ∀ a, Tracks rel (f b a) (f' b a)) :
    Tracks rel (forIn l init f) (forIn l init f') := by
  induction l generalizing init with
  | nil => exact pure init
  | cons b l ih =>
    rw [List.forIn_cons, List.forIn_cons]
    refine (h b (by simp) init).bind fun step => ?_
    cases step with
    | done a => exact pure a
    | yield a => exact ih a fun b hb => h b (by simp [hb])

theorem mapM {f : β → Course σ α} {f' : β → Course τ α} (l : List β)
    (h : ∀ b ∈ l, Tracks rel (f b) (f' b)) : Tracks rel (l.mapM f) (l.mapM f') := by
  have parts := Matches.mapM l fun b hb => (h b hb).matching
  rw [List.forall₂_eq_eq_eq] at parts
  exact of_matching parts

end Tracks

namespace Matches

variable {rel : σ → τ → Prop} {val : α → α' → Prop}

/-- A value that is the same may be followed by values alike. -/
theorem bind_of_tracks {d : Course σ β} {d' : Course τ β} {f : β → Course σ α} {f' : β → Course τ α'}
    (hd : Tracks rel d d') (hf : ∀ b, Matches rel val (f b) (f' b)) :
    Matches rel val (d >>= f) (d' >>= f') := by
  refine hd.matching.bind fun b _ same => ?_
  rw [← same]
  exact hf b

end Matches

/-! ## Along a relation -/

def Advances (rel : σ → σ → Prop) (c : Course σ α) : Prop :=
  ∀ s, ∃ a s', outcome c s = (.ok a, s') ∧ rel s s'

namespace Advances

variable {rel : σ → σ → Prop} {c : Course σ α}

theorem pure (refl : ∀ s, rel s s) (a : α) : Advances rel (pure a : Course σ α) :=
  fun s => ⟨a, s, rfl, refl s⟩

theorem bind (trans : ∀ s t u, rel s t → rel t u → rel s u) {f : α → Course σ β}
    (hc : Advances rel c) (hf : ∀ a, Advances rel (f a)) : Advances rel (c >>= f) := by
  intro s
  obtain ⟨a, t, ends, first⟩ := hc s
  obtain ⟨b, u, ends', next⟩ := hf a t
  refine ⟨b, u, ?_, trans s t u first next⟩
  rw [outcome_bind_of_ok ends, ends']

theorem forIn (refl : ∀ s, rel s s) (trans : ∀ s t u, rel s t → rel t u → rel s u)
    {f : β → α → Course σ (ForInStep α)} (l : List β) (init : α)
    (h : ∀ b ∈ l, ∀ a, Advances rel (f b a)) : Advances rel (forIn l init f) := by
  induction l generalizing init with
  | nil => exact pure refl init
  | cons b l ih =>
    rw [List.forIn_cons]
    refine bind trans (h b (by simp) init) fun step => ?_
    cases step with
    | done a => exact pure refl a
    | yield a => exact ih a fun b hb => h b (by simp [hb])

end Advances

/-! ## Along a relation, also to failures -/

/-- A view that is as it was. -/
def Keeps {γ : Type} (view : σ → γ) (s t : σ) : Prop :=
  view t = view s

instance {γ : Type} (view : σ → γ) : Std.Refl (Keeps view) :=
  ⟨fun _ => rfl⟩

instance {γ : Type} (view : σ → γ) : Trans (Keeps view) (Keeps view) (Keeps view) :=
  ⟨fun h h' => Eq.trans h' h⟩

def Leads (rel : σ → σ → Prop) (c : Course σ α) : Prop :=
  ∀ s, rel s (after c s)

namespace Leads

variable {rel : σ → σ → Prop} {c : Course σ α}

theorem of_outcome (h : Leads rel c) {s s' : σ} {r : Except Fault α} (ends : outcome c s = (r, s')) :
    rel s s' := by
  have related := h s
  rwa [after, ends] at related

theorem modify {f : σ → σ} (h : ∀ s, rel s (f s)) : Leads rel (modify f : Course σ Unit) :=
  h

theorem branch {p : Prop} [Decidable p] {c' : Course σ α} (hc : Leads rel c) (hc' : Leads rel c') :
    Leads rel (if p then c else c') := by
  split
  · exact hc
  · exact hc'

section Standing

variable [Std.Refl rel]

theorem of_after (h : ∀ s, after c s = s) : Leads rel c := by
  intro s
  rw [h s]
  exact Std.Refl.refl s

theorem pure (a : α) : Leads rel (pure a : Course σ α) :=
  of_after fun _ => rfl

theorem of_reads (h : Confined (fun s => s) (fun _ => True) c) : Leads rel c :=
  of_after h.after_eq

theorem throw (fault : Fault) : Leads rel (throw fault : Course σ α) :=
  of_after fun _ => rfl

theorem get : Leads rel (get : Course σ σ) :=
  of_after fun _ => rfl

end Standing

section Going

variable [Trans rel rel rel]

/-- It is enough that the first part goes along from where it starts. -/
theorem after_bind {f : α → Course σ β} {s t : σ} (first : rel s (after c t))
    (hf : ∀ a, Leads rel (f a)) : rel s (after (c >>= f) t) := by
  rw [after] at first ⊢
  rw [outcome_bind]
  rcases ends : outcome c t with ⟨r, t'⟩
  rw [ends] at first
  cases r with
  | ok a => exact Trans.trans first (hf a t')
  | error fault => exact first

theorem bind {f : α → Course σ β} (hc : Leads rel c) (hf : ∀ a, Leads rel (f a)) :
    Leads rel (c >>= f) :=
  fun s => after_bind (hc s) hf

theorem tryCatch {handle : Fault → Course σ α} (hc : Leads rel c)
    (hh : ∀ fault, Leads rel (handle fault)) : Leads rel (tryCatch c handle) := by
  intro s
  rw [after, outcome_tryCatch]
  rcases ends : outcome c s with ⟨r, s'⟩
  have first := hc.of_outcome ends
  cases r with
  | ok a => exact first
  | error fault => exact Trans.trans first (hh fault s')

variable [Std.Refl rel]

theorem forIn {f : β → α → Course σ (ForInStep α)} (l : List β) (init : α)
    (h : ∀ b ∈ l, ∀ a, Leads rel (f b a)) : Leads rel (forIn l init f) := by
  induction l generalizing init with
  | nil => exact pure init
  | cons b l ih =>
    rw [List.forIn_cons]
    refine bind (h b (by simp) init) fun step => ?_
    cases step with
    | done a => exact pure a
    | yield a => exact ih a fun b hb => h b (by simp [hb])

theorem mapM {f : β → Course σ α} (l : List β) (h : ∀ b ∈ l, Leads rel (f b)) :
    Leads rel (l.mapM f) := by
  induction l with
  | nil => exact pure []
  | cons b l ih =>
    rw [List.mapM_cons]
    refine bind (h b (by simp)) fun a => ?_
    exact bind (ih fun b hb => h b (by simp [hb])) fun as => pure (a :: as)

end Going

end Leads

end Course

end InteractiveFiction
