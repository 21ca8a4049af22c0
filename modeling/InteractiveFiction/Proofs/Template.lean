import InteractiveFiction.Proofs.Course
import InteractiveFiction.Template
import Mathlib.Data.List.TakeWhile

/-!
Where a text with placeholders may be cut.

* `IsPlain`: characters without a brace; what stands between the braces of a placeholder is plain.
* `ClosedOff`: after the last closing brace of a text no opening one is left.
* `Placeholder.written`, `Placeholder.shown`: a placeholder as an author writes it, and what a
  player reads in its place.

The pass over a text is told by three equations (`pieces_cons`, `pieces_braces`, `pieces_opening`).
With them a text may be cut wherever no placeholder is cut in two (`pieces_append_of_uncut`): after
what is closed off, and before every opening brace.  Main statement (`write_factors`): a text is
written piece by piece, all that is no placeholder stays, and a value is not read again, whatever
it holds; only a value that is too long to be written is refused, wherever it stands.
-/

set_option autoImplicit false

namespace InteractiveFiction

namespace Template

/-- Without a brace. -/
def IsPlain (cs : List Char) : Prop := ∀ c ∈ cs, isBrace c = false

theorem isPlain_of_all {cs : List Char} (h : (cs.all fun c => !isBrace c) = true) : IsPlain cs :=
  fun c member => by simpa using List.all_eq_true.1 h c member

section

variable {α : Type} {body rest cs pre post : List Char} (resolve : String → Option α)

theorem takeWhile_plain (plain : IsPlain body) (c : Char) (brace : isBrace c = true) :
    (body ++ c :: rest).takeWhile (fun c => !isBrace c) = body := by
  rw [List.takeWhile_append_of_pos (fun c h => by simp [plain c h]),
    List.takeWhile_cons_of_neg (by simp [brace]), List.append_nil]

theorem plain_takeWhile (cs : List Char) : IsPlain (cs.takeWhile fun c => !isBrace c) :=
  fun _ member => by simpa using List.mem_takeWhile_imp member

/-! ## The pass -/

theorem pieces_cons {c : Char} (h : c ≠ '\x7b') :
    pieces resolve (c :: cs) = .char c :: pieces resolve cs := by
  rw [pieces, if_neg h]

/-- What stands for a body in braces: its value, or else all of it as written. -/
def replacement (body : List Char) : List (Piece α) :=
  match if body.isEmpty then none else resolve (String.ofList body) with
  | some a => [.value a]
  | none => ('\x7b' :: (body ++ ['\x7d'])).map .char

theorem pieces_plain (plain : IsPlain body) :
    pieces resolve (body ++ rest) = body.map .char ++ pieces resolve rest := by
  induction body with
  | nil => rfl
  | cons c body ih =>
    have other : c ≠ '\x7b' := fun h => by simpa [h, isBrace] using plain c List.mem_cons_self
    rw [List.cons_append, pieces_cons resolve other, ih fun c h => plain c (.tail _ h)]
    rfl

theorem pieces_braces (plain : IsPlain body) :
    pieces resolve ('\x7b' :: (body ++ '\x7d' :: rest)) =
      replacement resolve body ++ pieces resolve rest := by
  have closing : (body ++ '\x7d' :: rest)[body.length]? = some '\x7d' := by simp
  have after : (body ++ '\x7d' :: rest).drop (body.length + 1) = rest := by
    rw [← List.drop_drop, List.drop_left]
    rfl
  have asWritten : pieces resolve (body ++ '\x7d' :: rest) =
      body.map .char ++ .char '\x7d' :: pieces resolve rest := by
    rw [pieces_plain resolve plain, pieces_cons resolve (by decide)]
  rw [pieces, if_pos rfl]
  simp only [takeWhile_plain plain '\x7d' rfl, closing, after, asWritten, replacement]
  cases body.isEmpty <;> cases resolve (String.ofList body) <;> simp

/-- An opening brace that no plain text closes stays. -/
theorem pieces_opening (open_ : ∀ body rest, IsPlain body → cs ≠ body ++ '\x7d' :: rest) :
    pieces resolve ('\x7b' :: cs) = .char '\x7b' :: pieces resolve cs := by
  have unclosed : cs[(cs.takeWhile fun c => !isBrace c).length]? ≠ some '\x7d' := by
    intro closed
    have parts := List.takeWhile_append_dropWhile (p := fun c => !isBrace c) (l := cs)
    generalize hbody : cs.takeWhile (fun c => !isBrace c) = body at closed parts
    generalize cs.dropWhile (fun c => !isBrace c) = tail at parts
    have plain : IsPlain body := hbody ▸ plain_takeWhile cs
    subst parts
    cases tail with
    | nil => simp at closed
    | cons c rest =>
      obtain rfl : c = '\x7d' := by simpa using closed
      exact open_ body rest plain rfl
  rw [pieces, if_pos rfl]
  simp [unclosed]

/-- The texts as the pass meets them: at its end, a character that is no opening brace, a body in
braces, or an opening brace that is not closed. -/
@[elab_as_elim]
theorem pass_induction {motive : List Char → Prop} (done : motive [])
    (char : ∀ c cs, c ≠ '\x7b' → motive cs → motive (c :: cs))
    (braces : ∀ body rest, IsPlain body → motive rest →
      motive ('\x7b' :: (body ++ '\x7d' :: rest)))
    (opening : ∀ cs, (∀ body rest, IsPlain body → cs ≠ body ++ '\x7d' :: rest) → motive cs →
      motive ('\x7b' :: cs)) (cs : List Char) : motive cs := by
  induction hn : cs.length using Nat.strong_induction_on generalizing cs with
  | _ n ih =>
  subst hn
  cases cs with
  | nil => exact done
  | cons c cs =>
    by_cases brace : c = '\x7b'
    · subst brace
      by_cases closed : ∃ body rest, IsPlain body ∧ cs = body ++ '\x7d' :: rest
      · obtain ⟨body, rest, plain, rfl⟩ := closed
        exact braces body rest plain (ih rest.length (by simp; omega) rest rfl)
      · exact opening cs (fun body rest plain same => closed ⟨body, rest, plain, same⟩)
          (ih cs.length (by simp) cs rfl)
    · exact char c cs brace (ih cs.length (by simp) cs rfl)

theorem suffix_braces (body rest : List Char) : rest <:+ '\x7b' :: (body ++ '\x7d' :: rest) :=
  ⟨'\x7b' :: (body ++ ['\x7d']), by simp⟩

/-! ## Cuts -/

/-- No braces that open in the first part are closed in the second. -/
def Uncut (pre post : List Char) : Prop :=
  ∀ cs, '\x7b' :: cs <:+ pre → ∀ body rest, IsPlain body → cs ++ post = body ++ '\x7d' :: rest →
    ∃ tail, cs = body ++ '\x7d' :: tail

theorem Uncut.of_suffix (uncut : Uncut pre post) (suffix : cs <:+ pre) : Uncut cs post :=
  fun _ opened => uncut _ (opened.trans suffix)

theorem pieces_append_of_uncut (uncut : Uncut pre post) :
    pieces resolve (pre ++ post) = pieces resolve pre ++ pieces resolve post := by
  induction pre using pass_induction with
  | done => simp [pieces]
  | char c cs other ih =>
    rw [List.cons_append, pieces_cons resolve other, pieces_cons resolve other,
      ih (uncut.of_suffix (List.suffix_cons c cs)), List.cons_append]
  | braces body rest plain ih =>
    rw [List.cons_append, List.append_assoc, List.cons_append, pieces_braces resolve plain,
      pieces_braces resolve plain, ih (uncut.of_suffix (suffix_braces body rest)),
      List.append_assoc]
  | opening cs open_ ih =>
    rw [List.cons_append, pieces_opening resolve open_, pieces_opening resolve,
      ih (uncut.of_suffix (List.suffix_cons _ cs)), List.cons_append]
    intro body rest plain same
    obtain ⟨tail, within⟩ := uncut cs (List.suffix_refl _) body rest plain same
    exact open_ body tail plain within

/-- Where a closing brace is reached, and none stands within, it belongs to the first part. -/
theorem ends_within {cs post body rest : List Char} (h : cs ++ post = body ++ '\x7d' :: rest)
    (inside : ¬ cs <+: body) : ∃ tail, cs = body ++ '\x7d' :: tail := by
  rcases List.append_eq_append_iff.1 h with ⟨more, rfl, _⟩ | ⟨more, rfl, hmore⟩
  · exact absurd (List.prefix_append cs more) inside
  · cases more with
    | nil => exact absurd (by simp) inside
    | cons c tail =>
      obtain ⟨rfl, -⟩ := List.cons.inj hmore
      exact ⟨tail, rfl⟩

/-- A text may be cut before an opening brace. -/
theorem uncut_opening (pre post : List Char) : Uncut pre ('\x7b' :: post) := by
  intro cs _ body rest plain h
  refine ends_within h fun ⟨more, hmore⟩ => ?_
  subst hmore
  rw [List.append_assoc, List.append_cancel_left_eq] at h
  cases more with
  | nil => simp at h
  | cons c more =>
    obtain ⟨rfl, -⟩ := List.cons.inj h
    simpa [isBrace] using plain '\x7b' (by simp)

/-- After its last closing brace, or in all of it when there is none, stands no opening one. -/
def ClosedOff (text : String) : Prop :=
  '\x7b' ∉ text.toList.reverse.takeWhile (· ≠ '\x7d')

instance (text : String) : Decidable (ClosedOff text) := inferInstanceAs (Decidable (¬ _))

theorem closing_mem_of_closedOff {text : String} (closed : ClosedOff text)
    (h : '\x7b' :: cs <:+ text.toList) : '\x7d' ∈ cs := by
  obtain ⟨pre, hpre⟩ := h
  by_contra none
  refine closed ?_
  rw [← hpre, List.reverse_append, List.reverse_cons, List.append_assoc,
    List.takeWhile_append_of_pos fun c hc => ?_]
  · simp
  · have : c ≠ '\x7d' := fun hc' => none (hc' ▸ List.mem_reverse.1 hc)
    simpa using this

/-- A text may be cut after what is closed off. -/
theorem uncut_of_closedOff {text : String} (closed : ClosedOff text) (post : List Char) :
    Uncut text.toList post := by
  intro cs suffix body rest plain h
  refine ends_within h fun within => ?_
  have := plain '\x7d' (within.subset (closing_mem_of_closedOff closed suffix))
  simp [isBrace] at this

/-! ## What stays as written -/

theorem replacement_of_none (h : body ≠ [] → resolve (String.ofList body) = none) :
    replacement resolve body = ('\x7b' :: (body ++ ['\x7d'])).map .char := by
  cases body with
  | nil => rfl
  | cons c body =>
    rw [replacement, if_neg (by simp), h (by simp)]

theorem pieces_eq_self (h : ∀ body, IsPlain body → body ≠ [] →
    '\x7b' :: (body ++ ['\x7d']) <:+: cs → resolve (String.ofList body) = none) :
    pieces resolve cs = cs.map .char := by
  induction cs using pass_induction with
  | done => simp [pieces]
  | char c cs other ih =>
    rw [pieces_cons resolve other, ih fun body plain filled inside =>
      h body plain filled (inside.trans (List.suffix_cons c cs).isInfix), List.map_cons]
  | braces body rest plain ih =>
    have kept := replacement_of_none resolve fun filled => h body plain filled ⟨[], rest, by simp⟩
    rw [pieces_braces resolve plain, kept, ih fun body plain filled inside =>
      h body plain filled (inside.trans (suffix_braces _ rest).isInfix)]
    simp
  | opening cs open_ ih =>
    rw [pieces_opening resolve open_, ih fun body plain filled inside =>
      h body plain filled (inside.trans (List.suffix_cons _ cs).isInfix), List.map_cons]

theorem resolve_of_mem_replacement {a : α} (mem : a ∈ values (replacement resolve body)) :
    resolve (String.ofList body) = some a := by
  unfold replacement at mem
  split at mem
  · rename_i value found
    obtain rfl : a = value := List.mem_singleton.1 mem
    exact (Option.ite_none_left_eq_some.1 found).2
  · rw [values, List.filterMap_map] at mem
    simp at mem

/-- A value stands for a body in braces. -/
theorem body_of_mem_values {a : α} (mem : a ∈ values (pieces resolve cs)) :
    ∃ body, IsPlain body ∧ '\x7b' :: (body ++ ['\x7d']) <:+: cs ∧
      resolve (String.ofList body) = some a := by
  induction cs using pass_induction with
  | done => simp [pieces, values] at mem
  | char c cs other ih =>
    rw [pieces_cons resolve other] at mem
    obtain ⟨body, plain, inside, isValue⟩ := ih mem
    exact ⟨body, plain, inside.trans (List.suffix_cons c cs).isInfix, isValue⟩
  | braces body rest plain ih =>
    rw [pieces_braces resolve plain, values, List.filterMap_append, List.mem_append] at mem
    rcases mem with own | later
    · exact ⟨body, plain, ⟨[], rest, by simp⟩, resolve_of_mem_replacement resolve own⟩
    · obtain ⟨other, plain, inside, isValue⟩ := ih later
      exact ⟨other, plain, inside.trans (suffix_braces body rest).isInfix, isValue⟩
  | opening cs open_ ih =>
    rw [pieces_opening resolve open_] at mem
    obtain ⟨body, plain, inside, isValue⟩ := ih mem
    exact ⟨body, plain, inside.trans (List.suffix_cons _ cs).isInfix, isValue⟩

end

/-! ## Placeholders -/

namespace Placeholder

def heading : Placeholder → String
  | .player _ => "player."
  | .flag _ => "flag."
  | .itemCount _ => "inventory.count."

def key : Placeholder → String
  | .player key | .flag key | .itemCount key => key

/-- A key has at least one character, and no brace. -/
def IsProper (placeholder : Placeholder) : Prop :=
  placeholder.key ≠ "" ∧ IsPlain placeholder.key.toList

def body (placeholder : Placeholder) : String := placeholder.heading ++ placeholder.key

/-- As an author writes it. -/
def written (placeholder : Placeholder) : String := "\x7b" ++ placeholder.body ++ "\x7d"

/-- As a player reads it: its value, or itself when it has none. -/
def shown (state : GameState) (placeholder : Placeholder) : Result String :=
  match (placeholder.value state).toOption with
  | some value => formatted value
  | none => pure placeholder.written

theorem heading_mem (placeholder : Placeholder) :
    placeholder.heading ∈ ["player.", "flag.", "inventory.count."] := by
  cases placeholder <;> simp [heading]

theorem heading_plain (placeholder : Placeholder) : IsPlain placeholder.heading.toList := by
  cases placeholder with
  | player _ => exact (isPlain_of_all (by decide) : IsPlain "player.".toList)
  | flag _ => exact (isPlain_of_all (by decide) : IsPlain "flag.".toList)
  | itemCount _ => exact (isPlain_of_all (by decide) : IsPlain "inventory.count.".toList)

theorem body_plain {placeholder : Placeholder} (proper : placeholder.IsProper) :
    IsPlain placeholder.body.toList := by
  intro c member
  rw [body, String.toList_append, List.mem_append] at member
  exact member.elim (placeholder.heading_plain c) (proper.2 c)

end Placeholder

theorem after?_eq_some_iff {beginning s key : String} :
    after? beginning s = some key ↔ s = beginning ++ key ∧ key ≠ "" := by
  simp only [after?, Option.ite_none_right_eq_some, Bool.and_eq_true, beq_iff_eq,
    decide_eq_true_eq, Option.some.injEq]
  constructor
  · rintro ⟨⟨begins, longer⟩, rfl⟩
    have parts := List.take_append_drop beginning.toList.length s.toList
    rw [begins] at parts
    constructor
    · rw [← String.toList_inj, String.toList_append, String.toList_ofList, parts]
    · rw [Ne, ← String.toList_inj, String.toList_ofList, String.toList_empty, List.drop_eq_nil_iff]
      omega
  · rintro ⟨rfl, filled⟩
    have : 0 < key.toList.length := List.length_pos_iff.2 fun h => filled (String.toList_inj.1 h)
    simp only [String.toList_append, List.take_left, List.drop_left, List.length_append,
      String.ofList_toList]
    exact ⟨⟨trivial, by omega⟩, trivial⟩

theorem after?_eq_none {beginning s : String} (h : ∀ key, s ≠ beginning ++ key) :
    after? beginning s = none :=
  Option.eq_none_iff_forall_ne_some.2 fun key found => h key (after?_eq_some_iff.1 found).1

namespace Placeholder

theorem ofBody?_body {placeholder : Placeholder} (filled : placeholder.key ≠ "") :
    ofBody? placeholder.body = some placeholder := by
  have own : after? placeholder.heading placeholder.body = some placeholder.key :=
    after?_eq_some_iff.2 ⟨rfl, filled⟩
  unfold ofBody?
  cases placeholder with
  | player field =>
    change after? "player." _ = some field at own
    rw [own]
  | flag name =>
    have notPlayer : after? "player." (flag name).body = none :=
      after?_eq_none fun key h => by simpa [body, heading] using congrArg String.toList h
    change after? "flag." _ = some name at own
    rw [notPlayer, own]
  | itemCount idOrName =>
    have notPlayer : after? "player." (itemCount idOrName).body = none :=
      after?_eq_none fun key h => by simpa [body, heading] using congrArg String.toList h
    have notFlag : after? "flag." (itemCount idOrName).body = none :=
      after?_eq_none fun key h => by simpa [body, heading] using congrArg String.toList h
    change after? "inventory.count." _ = some idOrName at own
    rw [notPlayer, notFlag, own]

theorem body_of_ofBody? {text : String} {placeholder : Placeholder}
    (h : ofBody? text = some placeholder) :
    text = placeholder.body ∧ placeholder.key ≠ "" := by
  unfold ofBody? at h
  split at h <;> cases h
  case h_1 found => exact after?_eq_some_iff.1 found
  case h_2 found _ => exact after?_eq_some_iff.1 found
  case h_3 found _ _ => exact after?_eq_some_iff.1 found

end Placeholder

theorem resolve_body (state : GameState) {placeholder : Placeholder}
    (filled : placeholder.key ≠ "") :
    resolve state placeholder.body = (placeholder.value state).toOption := by
  rw [resolve, Placeholder.ofBody?_body filled]

/-- Only the inside of a placeholder is given a value. -/
theorem resolve_eq_none (state : GameState) {text : String}
    (h : ∀ placeholder : Placeholder, placeholder.key ≠ "" → text ≠ placeholder.body) :
    resolve state text = none := by
  unfold resolve
  split
  case h_1 found =>
    obtain ⟨rfl, filled⟩ := Placeholder.body_of_ofBody? found
    exact absurd rfl (h _ filled)
  case h_2 => rfl

/-! ## Rendering -/

namespace Placeholder

variable {placeholder : Placeholder}

theorem toList_written (placeholder : Placeholder) :
    placeholder.written.toList = '\x7b' :: (placeholder.body.toList ++ ['\x7d']) := by
  simp [written]

/-- The shortest placeholders are flags with one character for a name. -/
theorem not_infix_of_short (proper : placeholder.IsProper) {text : String}
    (short : text.toList.length < 8) : ¬ placeholder.written.toList <:+: text.toList := by
  intro inside
  have headings : ∀ heading ∈ ["player.", "flag.", "inventory.count."],
      5 ≤ heading.toList.length := by decide
  have heading := headings _ placeholder.heading_mem
  have key := List.length_pos_iff.2 fun h => proper.1 (String.toList_inj.1 h)
  have whole := inside.length_le
  rw [toList_written] at whole
  simp only [body, String.toList_append, List.length_cons, List.length_append] at whole
  omega

theorem replacement_body (state : GameState) (proper : placeholder.IsProper) :
    replacement (resolve state) placeholder.body.toList =
      match (placeholder.value state).toOption with
      | some value => [.value value]
      | none => placeholder.written.toList.map .char := by
  have longer : ¬ placeholder.body.toList.isEmpty = true := by
    cases placeholder <;> simp [body, heading]
  rw [replacement, if_neg longer, String.ofList_toList, resolve_body state proper.1,
    toList_written]
  cases (placeholder.value state).toOption <;> rfl

theorem pieces_around (state : GameState) (proper : placeholder.IsProper) (before after : String) :
    pieces (resolve state) (before ++ placeholder.written ++ after).toList =
      pieces (resolve state) before.toList ++
        (replacement (resolve state) placeholder.body.toList ++
          pieces (resolve state) after.toList) := by
  simp only [String.toList_append, List.append_assoc, toList_written, List.cons_append,
    List.nil_append]
  rw [pieces_append_of_uncut _ (uncut_opening _ _), pieces_braces _ (body_plain proper)]

end Placeholder

/-! ### Pieces that are written -/

section

variable {some other : List (Piece Document)}

/-- Writes pieces, if all their values can be written. -/
def writePieces (pieces : List (Piece Document)) : Result String :=
  if (values pieces).all Document.isWritable then pure (String.ofList (expand format pieces))
  else throw (.value .intUnwritable)

theorem write_eq (state : GameState) (text : String) :
    write state text = writePieces (pieces (resolve state) text.toList) := rfl

theorem writePieces_append (some other : List (Piece Document)) :
    writePieces (some ++ other) = (do
      let first ← writePieces some
      let second ← writePieces other
      pure (first ++ second)) := by
  have valuesAppend : values (some ++ other) = values some ++ values other := List.filterMap_append
  have expandAppend : expand format (some ++ other) = expand format some ++ expand format other :=
    List.flatMap_append
  unfold writePieces
  rw [valuesAppend, List.all_append, expandAppend, String.ofList_append]
  cases (values some).all Document.isWritable <;>
    cases (values other).all Document.isWritable <;> rfl

theorem writePieces_chars (cs : List Char) :
    writePieces (cs.map .char) = .ok (String.ofList cs) := by
  have none : values (cs.map Piece.char : List (Piece Document)) = [] := by
    rw [values, List.filterMap_map]
    exact List.filterMap_eq_nil_iff.2 fun _ _ => rfl
  have same : expand format (cs.map .char) = cs := by
    rw [expand, List.flatMap_map]
    exact List.flatMap_singleton' cs
  rw [writePieces, none, same]
  rfl

theorem writePieces_value (value : Document) : writePieces [.value value] = formatted value := by
  have alone : expand format [.value value] = (format value).toList := List.append_nil _
  unfold writePieces formatted
  rw [alone, String.ofList_toList]
  cases writable : value.isWritable <;> simp [values, writable]

end

theorem writePieces_replacement (state : GameState) {placeholder : Placeholder}
    (proper : placeholder.IsProper) :
    writePieces (replacement (resolve state) placeholder.body.toList) =
      placeholder.shown state := by
  rw [Placeholder.replacement_body state proper, Placeholder.shown]
  cases (placeholder.value state).toOption with
  | none => exact (writePieces_chars _).trans (congrArg Except.ok (String.ofList_toList))
  | some value => exact writePieces_value value

theorem write_append_of_closedOff (state : GameState) {a : String} (closed : ClosedOff a)
    (b : String) : write state (a ++ b) = (do
      let first ← write state a
      let second ← write state b
      pure (first ++ second)) := by
  rw [write_eq, String.toList_append, pieces_append_of_uncut _ (uncut_of_closedOff closed _),
    writePieces_append]
  rfl

/-- Wherever a placeholder stands, it is shown, and what stands around it is written apart. -/
theorem write_around (state : GameState) {placeholder : Placeholder} (proper : placeholder.IsProper)
    (before after : String) : write state (before ++ placeholder.written ++ after) = (do
      let first ← write state before
      let shown ← placeholder.shown state
      let second ← write state after
      pure (first ++ shown ++ second)) := by
  rw [write_eq, Placeholder.pieces_around state proper, writePieces_append, writePieces_append,
    writePieces_replacement state proper, ← write_eq, ← write_eq]
  simp only [bind_assoc, pure_bind, String.append_assoc]

theorem write_eq_self (state : GameState) {text : String}
    (bare : ∀ placeholder : Placeholder, placeholder.IsProper →
      ¬ placeholder.written.toList <:+: text.toList) :
    write state text = .ok text := by
  rw [write_eq, pieces_eq_self, writePieces_chars, String.ofList_toList]
  intro body plain _ inside
  refine resolve_eq_none state fun placeholder filled same => ?_
  obtain rfl : body = placeholder.body.toList := by rw [← same, String.toList_ofList]
  refine bare placeholder ⟨filled, fun c member => plain c ?_⟩ ?_
  · rw [Placeholder.body, String.toList_append]
    exact List.mem_append_right _ member
  · rwa [placeholder.toList_written]

theorem eq_of_toOption {d value : Document} (h : d.toOption = some value) : d = value := by
  cases d <;> cases h <;> rfl

theorem isWritable_of_formatted {d : Document} {shown : String}
    (isShown : formatted d = .ok shown) : d.isWritable = true := by
  unfold formatted at isShown
  split at isShown
  · assumption
  · cases isShown

/-- The value that a body in braces has is that of the placeholder. -/
theorem placeholder_of_mem_values {state : GameState} {text : String} {value : Document}
    (mem : value ∈ values (pieces (resolve state) text.toList)) :
    ∃ placeholder : Placeholder, placeholder.IsProper ∧
      placeholder.written.toList <:+: text.toList ∧ placeholder.value state = value := by
  obtain ⟨body, plain, inside, isValue⟩ := body_of_mem_values _ mem
  unfold resolve at isValue
  split at isValue
  case h_1 placeholder found =>
    obtain ⟨same, filled⟩ := Placeholder.body_of_ofBody? found
    obtain rfl : body = placeholder.body.toList := by rw [← same, String.toList_ofList]
    refine ⟨placeholder, ⟨filled, fun c member => plain c ?_⟩, ?_, ?_⟩
    · rw [Placeholder.body, String.toList_append]
      exact List.mem_append_right _ member
    · rwa [placeholder.toList_written]
    · exact eq_of_toOption isValue
  case h_2 => cases isValue

theorem Placeholder.value_writable {state : GameState} {placeholder : Placeholder} {shown : String}
    (isShown : placeholder.shown state = .ok shown) :
    (placeholder.value state).isWritable = true := by
  unfold Placeholder.shown at isShown
  cases value : placeholder.value state with
  | null => rfl
  | _ =>
    rw [value] at isShown
    exact isWritable_of_formatted isShown

/-- A text is written unless it holds a placeholder whose value is too long. -/
theorem write_returns_iff (state : GameState) (text : String) :
    (∃ shown, write state text = .ok shown) ↔
      ∀ placeholder : Placeholder, placeholder.IsProper →
        placeholder.written.toList <:+: text.toList →
        (placeholder.value state).isWritable = true := by
  constructor
  · rintro ⟨shown, wrote⟩ placeholder proper ⟨before, after, parts⟩
    obtain rfl : String.ofList before ++ placeholder.written ++ String.ofList after = text := by
      rw [← String.toList_inj, ← parts]
      simp
    rw [write_around state proper] at wrote
    obtain ⟨first, -, wrote⟩ := Result.ok_of_bind wrote
    obtain ⟨value, isShown, -⟩ := Result.ok_of_bind wrote
    exact Placeholder.value_writable isShown
  · intro writable
    refine ⟨_, if_pos (List.all_eq_true.2 fun value mem => ?_)⟩
    obtain ⟨placeholder, proper, inside, rfl⟩ := placeholder_of_mem_values mem
    exact writable placeholder proper inside

/-- A text is written unless it holds a placeholder whose value is too long, and it is written piece
by piece: it may be cut after what is closed off; what holds no placeholder stays as it is; and a
placeholder becomes its value, or stays when it has none, which neither the text around it nor the
characters of the value change. -/
theorem write_factors (state : GameState) :
    (∀ text, (∃ shown, write state text = .ok shown) ↔
      ∀ placeholder : Placeholder, placeholder.IsProper →
        placeholder.written.toList <:+: text.toList →
        (placeholder.value state).isWritable = true) ∧
    (∀ a b, ClosedOff a → write state (a ++ b) = (do
      let first ← write state a
      let second ← write state b
      pure (first ++ second))) ∧
    (∀ text, (∀ placeholder : Placeholder, placeholder.IsProper →
        ¬ placeholder.written.toList <:+: text.toList) →
      write state text = .ok text) ∧
    ∀ placeholder : Placeholder, placeholder.IsProper →
      write state placeholder.written = placeholder.shown state ∧
      ∀ before after, write state (before ++ placeholder.written ++ after) = (do
        let first ← write state before
        let shown ← placeholder.shown state
        let second ← write state after
        pure (first ++ shown ++ second)) := by
  refine ⟨write_returns_iff state, fun a b closed => write_append_of_closedOff state closed b,
    fun text bare => write_eq_self state bare, fun placeholder proper =>
    ⟨?_, write_around state proper⟩⟩
  have nothing : write state "" = .ok "" :=
    write_eq_self state fun placeholder proper => placeholder.not_infix_of_short proper (by decide)
  have alone := write_around state proper "" ""
  rw [nothing, String.empty_append, String.append_empty] at alone
  rw [alone]
  cases placeholder.shown state with
  | error fault => rfl
  | ok shown =>
    change Except.ok ("" ++ shown ++ "") = _
    rw [String.empty_append, String.append_empty]

/-- A player whose name begins like a placeholder. -/
def ada : GameState := GameState.starting 0.0 "play" "tale" "gate" "\x7bplayer.gold" {}

theorem write_name_of_ada : ClosedOff "\x7bplayer.name\x7d" ∧
    (Placeholder.player "name").IsProper ∧
    (∀ placeholder : Placeholder, placeholder.IsProper →
      ¬ placeholder.written.toList <:+: "\x7d".toList) ∧
    write ada ("\x7bplayer.name\x7d" ++ "\x7d") = .ok "\x7bplayer.gold\x7d" := by
  have closed : ClosedOff "\x7bplayer.name\x7d" := by decide
  have proper : (Placeholder.player "name").IsProper := ⟨by decide, isPlain_of_all (by decide)⟩
  have bare : ∀ placeholder : Placeholder, placeholder.IsProper →
      ¬ placeholder.written.toList <:+: "\x7d".toList := fun placeholder proper =>
    placeholder.not_infix_of_short proper (by decide)
  obtain ⟨-, cut, kept, shown⟩ := write_factors ada
  have name : write ada "\x7bplayer.name\x7d" = .ok "\x7bplayer.gold" := (shown _ proper).1
  refine ⟨closed, proper, bare, ?_⟩
  rw [cut _ _ closed, name, kept _ bare]
  rfl

end Template

end InteractiveFiction
