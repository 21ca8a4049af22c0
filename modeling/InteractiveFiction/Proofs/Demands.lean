import InteractiveFiction.Identity
import InteractiveFiction.Proofs.Backdrop
import InteractiveFiction.Proofs.Upholding

/-!
What reading asks of a document, demand by demand.

* `Demand`: a rule of the format, or a value that must be of some kind.  What breaks a rule is
  reported as malformed content; most values of a wrong kind are not (`Demand.isGuarded`).
* `Result.DecidedBy demands r`: `r` is a value if all demands are met, and else fails as the first
  that is not met says.  The lemmas follow the ways in which results are composed.
* `Issue.DecidedBy`: the same of reading that issues identities, whatever was issued before.
-/

set_option autoImplicit false

namespace InteractiveFiction

open Course

namespace Document

def isInfinite : Document → Bool
  | .number (.float x) =>
    match Binary.ofFloat x with
    | .infinite _ => true
    | _ => false
  | _ => false

/-- An integer for which there is no double. -/
def isBeyondDoubles : Document → Bool
  | .number (.int n) =>
    match Binary.ofFloat (Rounding.ofInt n) with
    | .infinite _ => true
    | _ => false
  | _ => false

/-- What a list, a text or an object consists of; nothing otherwise. -/
def parts (d : Document) : List Document :=
  d.toItems.toOption.getD []

/-- The fields of an object; none otherwise. -/
def ownFields : Document → Fields
  | .object fields => fields
  | _ => []

/-- The fields of an object or of a list of pairs; none otherwise. -/
def ownPairs (d : Document) : Fields :=
  d.toFields.toOption.getD []

variable {d : Document}

theorem get_of_not_object {key : String} (other : ∀ fields, d = .object fields → False) :
    d.get key = .null := by
  cases d with
  | object fields => exact (other fields rfl).elim
  | _ => rfl

theorem toItems_of_ok {items : List Document} (h : d.toItems = .ok items) : items = d.parts := by
  rw [parts, h]
  rfl

theorem fields_of_ok {access : String} {fields : Fields} (h : d.fields access = .ok fields) :
    d = .object fields := by
  cases d with
  | object own =>
    cases h
    rfl
  | _ => cases h

theorem toFields_of_ok {fields : Fields} (h : d.toFields = .ok fields) : fields = d.ownPairs := by
  rw [ownPairs, h]
  rfl

end Document

/-! ## Demands -/

inductive Demand where
  | rule (kept : Bool)
  /-- A whole number of a bundle. -/
  | amount (d : Document)
  /-- A number of milliseconds. -/
  | delay (d : Document)
  /-- A whole number of any other record. -/
  | whole (d : Document)
  | items (d : Document)
  /-- An object, or a list of pairs. -/
  | pairs (d : Document)
  | object (d : Document)
  /-- An identity that records can be found by. -/
  | key (d : Document)

namespace Demand

def isMet : Demand → Bool
  | .rule kept => kept
  | .amount d => !d.isBool && d.toInt.isOk
  | .delay d => d.toFloat.isOk
  | .whole d => d.toInt.isOk
  | .items d => d.toItems.isOk
  | .pairs d => d.toFields.isOk
  | .object d => (d.fields "get").isOk
  | .key d => d.isKey

/-- Whether a document that does not meet the demand is reported as malformed content. -/
def isGuarded : Demand → Bool
  | .rule _ => true
  | .amount d => !d.isInfinite
  | .delay d => !d.isBeyondDoubles
  | .whole _ | .items _ | .pairs _ | .object _ | .key _ => false

def firstUnmet (demands : List Demand) : Option Demand :=
  demands.find? fun demand => !demand.isMet

theorem firstUnmet_append (demands more : List Demand) :
    firstUnmet (demands ++ more) = (firstUnmet demands).or (firstUnmet more) :=
  List.find?_append

theorem firstUnmet_eq_none_iff {demands : List Demand} :
    firstUnmet demands = none ↔ ∀ demand ∈ demands, demand.isMet = true := by
  unfold firstUnmet
  simp

/-- A list, and what is asked of each of its members. -/
def listing (d : Document) (each : Document → List Demand) : List Demand :=
  .items d :: d.parts.flatMap each

theorem mem_listing {d item : Document} {each : Document → List Demand} {demand : Demand}
    (mem : item ∈ d.parts) (asked : demand ∈ each item) : demand ∈ listing d each :=
  List.mem_cons_of_mem _ (List.mem_flatMap.2 ⟨item, mem, asked⟩)

end Demand

/-! ## Results that demands decide -/

theorem Fault.IsAccident.not_ofContent {fault : Fault} (h : fault.IsAccident) :
    fault.isOfContent = false := by
  cases fault <;> first | rfl | cases h

/-- The faults of what has not the form of a number. -/
def Fault.isOfForm : Fault → Bool
  | .value _ | .mistyped _ => true
  | _ => false

namespace Result

variable {α β : Type} {demands more : List Demand} {r : Result α}

/-- A result with its faults of form reported as malformed content. -/
def guarded (reported : ContentFault) (r : Result α) : Result α :=
  match r with
  | .error fault => if fault.isOfForm then throw (.content reported) else .error fault
  | .ok a => .ok a

theorem ok_of_guarded {reported : ContentFault} {a : α} (h : r.guarded reported = .ok a) :
    r = .ok a := by
  unfold guarded at h
  cases r with
  | ok b => exact h
  | error fault =>
    dsimp only at h
    split at h <;> cases h

/-- A value if all demands are met; the first that is not met decides how the result fails. -/
def DecidedBy (demands : List Demand) (r : Result α) : Prop :=
  match Demand.firstUnmet demands with
  | none => ∃ a, r = .ok a
  | some demand => ∃ fault, r = .error fault ∧ fault.isOfContent = demand.isGuarded

namespace DecidedBy

theorem pure (a : α) : DecidedBy [] (pure a : Result α) :=
  ⟨a, rfl⟩

theorem bind {f : α → Result β} (hr : DecidedBy demands r)
    (hf : ∀ a, r = .ok a → DecidedBy more (f a)) : DecidedBy (demands ++ more) (r >>= f) := by
  unfold DecidedBy at hr ⊢
  rw [Demand.firstUnmet_append]
  cases first : Demand.firstUnmet demands with
  | none =>
    rw [first] at hr
    obtain ⟨a, rfl⟩ := hr
    exact hf a rfl
  | some demand =>
    rw [first] at hr
    obtain ⟨fault, rfl, guarded⟩ := hr
    exact ⟨fault, rfl, guarded⟩

theorem ok_iff (h : DecidedBy demands r) :
    (∃ a, r = .ok a) ↔ ∀ demand ∈ demands, demand.isMet = true := by
  unfold DecidedBy at h
  rw [← Demand.firstUnmet_eq_none_iff]
  cases first : Demand.firstUnmet demands with
  | none =>
    rw [first] at h
    exact iff_of_true h rfl
  | some demand =>
    rw [first] at h
    obtain ⟨fault, failed, -⟩ := h
    rw [failed]
    exact iff_of_false nofun nofun

/-- One demand before the others. -/
theorem next {demand : Demand} {f : α → Result β} (hr : DecidedBy [demand] r)
    (hf : ∀ a, r = .ok a → DecidedBy more (f a)) : DecidedBy (demand :: more) (r >>= f) :=
  bind hr hf

theorem of_met (met : ∀ demand ∈ demands, demand.isMet = true) (h : DecidedBy more r) :
    DecidedBy (demands ++ more) r := by
  unfold DecidedBy at h ⊢
  rwa [Demand.firstUnmet_append, Demand.firstUnmet_eq_none_iff.2 met, Option.none_or]

theorem broken (fault : ContentFault) (more : List Demand) :
    DecidedBy (.rule false :: more) (throw (.content fault) : Result α) :=
  ⟨.content fault, rfl, rfl⟩

/-- A rule that is kept asks nothing more. -/
theorem kept (h : DecidedBy more r) : DecidedBy (.rule true :: more) r := by
  have met : ∀ demand ∈ [Demand.rule true], demand.isMet = true := by simp [Demand.isMet]
  exact of_met met h

theorem one {demand : Demand} (met : demand.isMet = r.isOk)
    (guarded : r.FailsIn fun fault => fault.isOfContent = demand.isGuarded) :
    DecidedBy [demand] r := by
  unfold DecidedBy Demand.firstUnmet
  rw [List.find?_singleton, met]
  cases r with
  | ok a => exact ⟨a, rfl⟩
  | error fault => exact ⟨fault, rfl, guarded fault rfl⟩

/-- A result that fails by accident is decided by a demand without a guard. -/
theorem of_slips {demand : Demand} (met : demand.isMet = r.isOk)
    (unguarded : demand.isGuarded = false) (slips : r.Slips) : DecidedBy [demand] r := by
  refine one met (slips.weaken fun fault accident => ?_)
  rw [unguarded]
  exact accident.not_ofContent

theorem mapM {f : α → Result β} {asked : α → List Demand} {items : List α}
    (each : ∀ item ∈ items, DecidedBy (asked item) (f item)) :
    DecidedBy (items.flatMap asked) (items.mapM f) := by
  induction items with
  | nil => exact pure []
  | cons item items ih =>
    rw [List.flatMap_cons, List.mapM_cons]
    refine bind (each item (by simp)) fun b _ => ?_
    rw [← List.append_nil (items.flatMap asked)]
    exact bind (ih fun other mem => each other (by simp [mem])) fun bs _ => pure _

/-- A result whose faults of form are reported as malformed content. -/
theorem guarded {demand : Demand} (reported : ContentFault) (met : demand.isMet = r.isOk)
    (slips : r.Slips) (form : r.FailsIn fun fault => fault.isOfForm = demand.isGuarded) :
    DecidedBy [demand] (r.guarded reported) := by
  cases r with
  | ok a => exact one met (.ok a)
  | error fault =>
    have own : fault.isOfForm = demand.isGuarded := form fault rfl
    unfold Result.guarded
    dsimp only
    split
    · rename_i ofForm
      exact one met (.throw (ofForm.symm.trans own))
    · rename_i other
      rw [Bool.eq_false_iff.2 other] at own
      exact one met (.throw ((slips fault rfl).not_ofContent.trans own))

/-- A list whose members are read one after another, and what is read then. -/
theorem listing {γ : Type} {d : Document} {asked : Document → List Demand}
    {f : Document → Result β} {rest : List β → Result γ}
    (each : ∀ item, DecidedBy (asked item) (f item)) (then_ : ∀ bs, DecidedBy more (rest bs)) :
    DecidedBy (Demand.listing d asked ++ more)
      (d.toItems >>= fun items => items.mapM f >>= rest) := by
  refine next (.of_slips rfl rfl d.toItems_slips) fun items isOk => ?_
  rw [Document.toItems_of_ok isOk]
  exact bind (mapM fun item _ => each item) fun bs _ => then_ bs

theorem foldlM {step : β → α → Result β} {asked : α → List Demand}
    (each : ∀ b item, DecidedBy (asked item) (step b item)) (items : List α) (first : β) :
    DecidedBy (items.flatMap asked) (items.foldlM step first) := by
  induction items generalizing first with
  | nil => exact pure first
  | cons item items ih =>
    rw [List.flatMap_cons, List.foldlM_cons]
    exact bind (each first item) fun b _ => ih b

end DecidedBy

end Result

/-! ## Reading that issues identities -/

namespace Issue

variable {α β : Type} {demands more : List Demand} {c : Issue α} {r : Result α}

/-- Whatever was issued before, demands decide what is read. -/
def DecidedBy (demands : List Demand) (c : Issue α) : Prop :=
  ∀ issued, Result.DecidedBy demands (result c issued)

namespace DecidedBy

theorem pure (a : α) : DecidedBy [] (pure a : Issue α) :=
  fun _ => .pure a

theorem broken (fault : ContentFault) (more : List Demand) :
    DecidedBy (.rule false :: more) (throw (.content fault) : Issue α) :=
  fun _ => .broken fault more

theorem kept (h : DecidedBy more c) : DecidedBy (.rule true :: more) c :=
  fun issued => .kept (h issued)

theorem lift (h : Result.DecidedBy demands r) : DecidedBy demands (liftM r : Issue α) := by
  intro issued
  have same : result (liftM r : Issue α) issued = r := by cases r <;> rfl
  rwa [same]

theorem bind {f : α → Issue β} (hc : DecidedBy demands c)
    (hf : ∀ a issued issued', outcome c issued = (.ok a, issued') → DecidedBy more (f a)) :
    DecidedBy (demands ++ more) (c >>= f) := by
  intro issued
  have first := hc issued
  have whole : result (c >>= f) issued =
      result c issued >>= fun a => result (f a) (after c issued) := by
    unfold result after
    rw [outcome_bind]
    rcases outcome c issued with ⟨r, issued'⟩
    cases r <;> rfl
  rw [whole]
  refine first.bind fun a isOk => ?_
  exact hf a issued (after c issued) (Prod.ext isOk rfl) (after c issued)

/-- One demand before the others. -/
theorem next {demand : Demand} {f : α → Issue β} (hr : Result.DecidedBy [demand] r)
    (hf : ∀ a, r = .ok a → DecidedBy more (f a)) :
    DecidedBy (demand :: more) ((liftM r : Issue α) >>= f) := by
  refine bind (lift hr) fun a issued issued' ends => hf a ?_
  cases r with
  | ok b =>
    cases ends
    rfl
  | error fault => cases ends

theorem mapM {f : α → Issue β} {asked : α → List Demand} {items : List α}
    (each : ∀ item ∈ items, DecidedBy (asked item) (f item)) :
    DecidedBy (items.flatMap asked) (items.mapM f) := by
  induction items with
  | nil => exact pure []
  | cons item items ih =>
    rw [List.flatMap_cons, List.mapM_cons]
    refine bind (each item (by simp)) fun b _ _ _ => ?_
    rw [← List.append_nil (items.flatMap asked)]
    exact bind (ih fun other mem => each other (by simp [mem])) fun bs _ _ _ => pure _

/-- A list whose members are read one after another, and what is read then. -/
theorem listing {γ : Type} {d : Document} {asked : Document → List Demand}
    {f : Document → Issue α} {rest : List α → Issue γ}
    (each : ∀ item, DecidedBy (asked item) (f item))
    (then_ : ∀ as issued issued', outcome (d.parts.mapM f) issued = (.ok as, issued') →
      DecidedBy more (rest as)) :
    DecidedBy (Demand.listing d asked ++ more)
      ((liftM d.toItems : Issue (List Document)) >>= fun items => items.mapM f >>= rest) := by
  refine next (.of_slips rfl rfl d.toItems_slips) fun items isOk => ?_
  rw [Document.toItems_of_ok isOk]
  exact bind (mapM fun item _ => each item) then_

/-- What is read met all demands. -/
theorem gives (h : DecidedBy demands c) :
    Upholds Anything (fun _ => ∀ demand ∈ demands, demand.isMet = true) c :=
  fun issued _ => ⟨trivial, fun a isOk => (h issued).ok_iff.1 ⟨a, isOk⟩⟩

/-- What meets all demands is read. -/
theorem delivers (h : DecidedBy demands c) (met : ∀ demand ∈ demands, demand.isMet = true) :
    Delivers Anything c := by
  intro issued
  obtain ⟨a, isOk⟩ := (h issued).ok_iff.2 met
  exact ⟨a, after c issued, Prod.ext isOk rfl, trivial⟩

end DecidedBy

end Issue

/-! ## Values -/

open Result

namespace Document

variable (d : Document)

theorem toInt_decided : DecidedBy [.whole d] d.toInt :=
  .of_slips rfl rfl d.toInt_slips

theorem toInt_form : d.toInt.FailsIn fun fault => fault.isOfForm = !d.isInfinite := by
  cases d with
  | null => exact .throw rfl
  | bool b => exact .pure _
  | list items => exact .throw rfl
  | object fields => exact .throw rfl
  | text s =>
    unfold toInt
    dsimp only
    split
    · exact .pure _
    · exact .throw rfl
    · exact .throw rfl
  | number n =>
    cases n with
    | int n => exact .pure n
    | float x =>
      unfold toInt isInfinite number? Number.toInt
      dsimp only
      cases Binary.ofFloat x with
      | notANumber => exact .throw rfl
      | infinite negative => exact .throw rfl
      | finite negative mantissa exponent => exact .pure _

theorem toFloat_form : d.toFloat.FailsIn fun fault => fault.isOfForm = !d.isBeyondDoubles := by
  cases d with
  | null => exact .throw rfl
  | bool b =>
    cases b with
    | true => exact .pure (Rounding.ofInt 1)
    | false => exact .pure (Rounding.ofInt 0)
  | list items => exact .throw rfl
  | object fields => exact .throw rfl
  | text s =>
    unfold toFloat
    dsimp only
    split
    · exact .pure _
    · exact .throw rfl
  | number n =>
    cases n with
    | int n =>
      unfold toFloat isBeyondDoubles number? Number.toFloat?
      dsimp only
      cases Binary.ofFloat (Rounding.ofInt n) with
      | notANumber => exact .pure _
      | infinite negative => exact .throw rfl
      | finite negative mantissa exponent => exact .pure _
    | float x => exact .pure x

theorem toFloat_slips : Result.Slips d.toFloat := by
  unfold toFloat
  split
  · split
    · exact .pure _
    · exact .throw rfl
  · split
    · exact Number.toFloat?_slips _
    · exact .throw rfl

theorem toItems_decided : DecidedBy [.items d] d.toItems :=
  .of_slips rfl rfl d.toItems_slips

theorem fields_decided (access : String) : DecidedBy [.object d] (d.fields access) := by
  refine .of_slips ?_ rfl (d.toFields_slips access)
  cases d <;> rfl

theorem checkKey_decided : DecidedBy [.key d] d.checkKey := by
  refine .of_slips ?_ rfl d.checkKey_slips
  cases d <;> rfl

theorem toFields_go_slips (index : Nat) (items : List Document) (found : Fields) :
    Result.Slips (toFields.go index items found) := by
  induction items generalizing index found with
  | nil => exact .pure found
  | cons item items ih =>
    unfold toFields.go
    split
    · exact .throw rfl
    · split
      · exact ih _ _
      · exact .throw rfl
    · exact .throw rfl

theorem toFields_decided : DecidedBy [.pairs d] d.toFields := by
  refine .of_slips rfl rfl ?_
  unfold toFields
  split
  · exact .pure _
  · split
    · exact .pure _
    · exact .throw rfl
  · exact toFields_go_slips 0 _ _
  · exact .throw rfl

end Document

end InteractiveFiction
