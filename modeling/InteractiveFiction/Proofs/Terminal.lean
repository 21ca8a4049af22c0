import InteractiveFiction.Proofs.Engine.Aftermath
import InteractiveFiction.Terminal.Play

/-!
Numbers that are typed at the prompt of a game.

A first word of digits, of whatever kind and script, is taken for the number of a choice.  It can be
read only if its digits are decimal ones, and not too many; other digits come to a fault that is
none of the rules, and the game is lost.

* `IsNumeral`, `IsLegible`, `numeral?`: what is taken for a number, what can be read, and what it
  then means.
* `Play.Handled`: the ways in which a command that numbers a choice should end.
* `Play.Tame`: a choice that fails by the rules only, and ends no game whose end cannot be told.
-/

set_option autoImplicit false

namespace InteractiveFiction

open Course

/-! ## Digits -/

/-- First and last code points of each run of digits. -/
def digitRanges : List (Nat × Nat) :=
  decimalZeros.map (fun first => (first, first + 9)) ++ otherDigitRanges

theorem inRanges_iff {ranges : List (Nat × Nat)} {c : Char} :
    inRanges ranges c = true ↔ ∃ run ∈ ranges, run.1 ≤ c.toNat ∧ c.toNat ≤ run.2 := by
  simp [inRanges]

theorem inDigitRanges_of_isAnyDigit {c : Char} (h : isAnyDigit c = true) :
    inRanges digitRanges c = true := by
  rw [inRanges_iff, digitRanges]
  rcases (Bool.or_eq_true _ _).mp h with decimal | other
  · unfold isDecimalDigit decimalDigit? at decimal
    split at decimal
    · split at decimal
      · rename_i ascii
        simp only [Bool.and_eq_true, decide_eq_true_eq] at ascii
        exact ⟨(48, 57), by decide, ascii⟩
      · cases decimal
    · rw [Option.isSome_map] at decimal
      obtain ⟨first, isZero⟩ := Option.isSome_iff_exists.1 decimal
      have within := List.find?_some isZero
      simp only [Bool.and_eq_true, decide_eq_true_eq] at within
      refine ⟨(first, first + 9), ?_, within.1, by omega⟩
      exact List.mem_append_left _ (List.mem_map_of_mem (List.mem_of_find?_eq_some isZero))
  · obtain ⟨run, mem, within⟩ := inRanges_iff.1 other
    exact ⟨run, List.mem_append_right _ mem, within⟩

theorem inBlankRanges_of_isNumericBlank {c : Char} (h : isNumericBlank c = true) :
    inRanges blankRanges c = true := by
  unfold isNumericBlank at h
  split at h
  · rw [inRanges_iff]
    rcases (Bool.or_eq_true _ _).mp h with control | space
    · simp only [Bool.and_eq_true, decide_eq_true_eq] at control
      exact ⟨(9, 13), by decide, control⟩
    · rw [eq_of_beq space]
      exact ⟨(28, 32), by decide, by decide⟩
  · exact h

/-- No run of white space meets a run of digits. -/
theorem not_isNumericBlank_of_isAnyDigit {c : Char} (h : isAnyDigit c = true) :
    isNumericBlank c = false := by
  have apart : ∀ blanks ∈ blankRanges, ∀ digits ∈ digitRanges,
      blanks.2 < digits.1 ∨ digits.2 < blanks.1 := by decide
  by_contra blank
  rw [Bool.not_eq_false] at blank
  obtain ⟨blanks, isRun, blankLow, blankHigh⟩ :=
    inRanges_iff.1 (inBlankRanges_of_isNumericBlank blank)
  obtain ⟨digits, isDigits, low, high⟩ := inRanges_iff.1 (inDigitRanges_of_isAnyDigit h)
  rcases apart blanks isRun digits isDigits with below | above
  · omega
  · omega

theorem ne_of_isAnyDigit {c mark : Char} (h : isAnyDigit c = true)
    (unlisted : isAnyDigit mark = false) : c ≠ mark := by
  rintro rfl
  rw [h] at unlisted
  cases unlisted

/-! ## Numerals -/

/-- A word that is taken for the number of a choice. -/
def IsNumeral (word : String) : Prop :=
  word ≠ "" ∧ word.toList.all isAnyDigit = true

/-- A numeral that can be read. -/
def IsLegible (word : String) : Prop :=
  word.toList.all isDecimalDigit = true ∧ word.length ≤ digitLimit

/-- What decimal digits mean, whatever their script. -/
def numeral? (word : String) : Option Nat :=
  (word.toList.mapM decimalDigit?).map digitsValue

namespace Reading

theorem trimEnds_of_none {drop : Char → Bool} {cs : List Char} (kept : ∀ c ∈ cs, drop c = false) :
    trimEnds drop cs = cs := by
  have same : ∀ ds : List Char, (∀ c ∈ ds, drop c = false) → ds.dropWhile drop = ds := by
    intro ds kept
    cases ds with
    | nil => rfl
    | cons c ds => rw [List.dropWhile_cons_of_neg (by simp [kept c])]
  rw [trimEnds, same cs kept, same _ fun c mem => kept c (List.mem_reverse.1 mem)]
  exact List.reverse_reverse cs

theorem splitSign_of_digits {cs : List Char} (digits : ∀ c ∈ cs, isAnyDigit c = true) :
    splitSign cs = (false, cs) := by
  unfold splitSign
  split
  · exact absurd rfl (ne_of_isAnyDigit (digits '-' (by simp)) (by decide))
  · exact absurd rfl (ne_of_isAnyDigit (digits '+' (by simp)) (by decide))
  · rfl

/-- Where there are no underscores, each digit is read for itself. -/
theorem digits?_of_digits {cs : List Char} (nonempty : cs ≠ [])
    (digits : ∀ c ∈ cs, isAnyDigit c = true) : digits? cs = cs.mapM decimalDigit? := by
  induction cs with
  | nil => exact absurd rfl nonempty
  | cons c cs ih =>
    cases cs with
    | nil =>
      rw [List.mapM_cons, List.mapM_nil, digits?]
      cases decimalDigit? c <;> rfl
    | cons c' cs =>
      have noBar : c' ≠ '_' := ne_of_isAnyDigit (digits c' (by simp)) (by decide)
      have rest := ih (List.cons_ne_nil c' cs) fun d mem => digits d (List.mem_cons_of_mem c mem)
      rw [List.mapM_cons, ← rest, digits?]
      · intro h
        exact List.cons_ne_nil _ _ h
      · intro others same
        exact noBar (List.cons.inj same).1

end Reading

open Reading

theorem length_of_mapM {α β : Type} {f : α → Option β} {items : List α} {results : List β}
    (h : items.mapM f = some results) : results.length = items.length := by
  induction items generalizing results with
  | nil =>
    cases h
    rfl
  | cons item items ih =>
    rw [List.mapM_cons] at h
    obtain ⟨_, -, h⟩ := Option.bind_eq_some_iff.1 h
    obtain ⟨others, rest, h⟩ := Option.bind_eq_some_iff.1 h
    cases h
    rw [List.length_cons, List.length_cons, ih rest]

theorem mapM_isSome {α β : Type} {f : α → Option β} {items : List α} :
    (items.mapM f).isSome = items.all fun item => (f item).isSome := by
  induction items with
  | nil => rfl
  | cons item items ih =>
    rw [List.mapM_cons, List.all_cons, ← ih]
    cases f item with
    | none => rfl
    | some b => cases items.mapM f <;> rfl

theorem readInt_of_isNumeral {word : String} (h : IsNumeral word) :
    readInt word =
      match word.toList.mapM decimalDigit? with
      | none => .malformed
      | some digits =>
        if digitLimit < word.length then .tooLong word.length else .value (digitsValue digits) := by
  have digits : ∀ c ∈ word.toList, isAnyDigit c = true := List.all_eq_true.1 h.2
  have nonempty : word.toList ≠ [] := by simpa using h.1
  have untrimmed : trimEnds isNumericBlank word.toList = word.toList :=
    trimEnds_of_none fun c mem => not_isNumericBlank_of_isAnyDigit (digits c mem)
  rw [readInt, untrimmed, splitSign_of_digits digits]
  dsimp only
  rw [digits?_of_digits nonempty digits]
  cases read : word.toList.mapM decimalDigit? with
  | none => rfl
  | some values =>
    have same : values.length = word.length := (length_of_mapM read).trans String.length_toList
    dsimp only
    rw [same]
    rfl

theorem toInt_of_isLegible {word : String} (h : IsNumeral word) (legible : IsLegible word) :
    ∃ number, numeral? word = some number ∧ (Document.text word).toInt = .ok (number : Int) := by
  have decimal : (word.toList.mapM decimalDigit?).isSome = true := mapM_isSome.trans legible.1
  obtain ⟨digits, read⟩ := Option.isSome_iff_exists.1 decimal
  refine ⟨digitsValue digits, by rw [numeral?, read]; rfl, ?_⟩
  rw [Document.toInt, readInt_of_isNumeral h, read]
  dsimp only
  rw [if_neg (Nat.not_lt.2 legible.2)]
  rfl

/-- Digits that are not decimal, and too many digits, come to a fault that is none of the rules. -/
theorem toInt_of_not_isLegible {word : String} (h : IsNumeral word) (illegible : ¬ IsLegible word) :
    ∃ fault, (Document.text word).toInt = .error (.value fault) := by
  rw [Document.toInt, readInt_of_isNumeral h]
  cases read : word.toList.mapM decimalDigit? with
  | none => exact ⟨_, rfl⟩
  | some digits =>
    have decimal : word.toList.all isDecimalDigit = true :=
      mapM_isSome.symm.trans (Option.isSome_iff_exists.2 ⟨digits, read⟩)
    have long : digitLimit < word.length := Nat.not_le.1 fun short => illegible ⟨decimal, short⟩
    dsimp only
    rw [if_pos long]
    exact ⟨_, rfl⟩

/-! ## Printing -/

def Desk.tell (desk : Desk) (text : String) : Desk :=
  { desk with printed := desk.printed ++ text }

theorem Desk.tell_tell (desk : Desk) (text more : String) :
    (desk.tell text).tell more = desk.tell (text ++ more) := by
  simp only [tell, String.append_assoc]

namespace Console

theorem outcome_ofTurn {α : Type} (turn : Turn α) (desk : Desk) :
    outcome (liftM turn : Console α) desk =
      ((outcome turn desk.sitting).1, { desk with sitting := (outcome turn desk.sitting).2 }) := by
  change outcome (ofTurn turn) desk = _
  rcases ends : outcome turn desk.sitting with ⟨r, sitting⟩
  have runs : (turn.run).run desk.sitting = (r, sitting) := ends
  rw [ofTurn, outcome_bind_of_ok (outcome_get desk), runs]
  cases r <;> rfl

/-- A part of a game that prints, and does nothing else. -/
def Tells (c : Console Unit) : Prop :=
  ∀ desk : Desk, ∃ told, outcome c desk = (.ok (), desk.tell told)

namespace Tells

theorem print (text : String) : Tells (print text) :=
  fun _ => ⟨text, rfl⟩

theorem skip {α : Type} {c : Console Unit} (h : Tells c) (next : Console α) (desk : Desk) :
    ∃ told, outcome (do c; next) desk = outcome next (desk.tell told) := by
  obtain ⟨told, ends⟩ := h desk
  exact ⟨told, outcome_bind_of_ok ends _⟩

theorem bind {c c' : Console Unit} (h : Tells c) (h' : Tells c') : Tells (do c; c') := by
  intro desk
  obtain ⟨first, skipped⟩ := h.skip c' desk
  obtain ⟨second, ends⟩ := h' (desk.tell first)
  exact ⟨first ++ second, by rw [skipped, ends, Desk.tell_tell]⟩

theorem nothing : Tells (pure ()) :=
  fun _ => ⟨"", by rw [Desk.tell, String.append_empty]; rfl⟩

theorem printLines (lines : List String) : Tells (printLines lines) := by
  induction lines with
  | nil => exact nothing
  | cons line lines ih => exact bind (print _) ih

theorem printScene (presented : PresentedScene) : Tells (printScene presented) :=
  bind (print _) (bind (print _) (bind (print _) (printLines _)))

end Tells

/-! ### Endings -/

open Effect (AreTexts)

/-- The last line of an ending, which names the achievements if there are any. -/
def nameAchievements (names : List Document) : Console Unit := do
  if !names.isEmpty then
    let joined ← (Document.joined ", " names : Turn String)
    printLine s!"Achievements: {joined}"

theorem outcome_read {α : Type} {read : Result α} {r : Except Fault α} (reads : read = r)
    (desk : Desk) : outcome (liftM (liftM read : Turn α) : Console α) desk = (r, desk) := by
  rw [outcome_ofTurn, Turn.outcome_lift, reads]

theorem nameAchievements_tells {names : List Document} (texts : AreTexts names) :
    Tells (nameAchievements names) := by
  intro desk
  unfold nameAchievements
  split
  · rw [outcome_bind_of_ok (outcome_read (Effect.joined_of_texts texts ", ") desk)]
    exact Tells.print _ desk
  · exact Tells.nothing desk

theorem nameAchievements_fails {names : List Document} (others : ¬ AreTexts names) (desk : Desk) :
    ∃ fault, outcome (nameAchievements names) desk = (.error fault, desk) ∧
      fault.isOfGame = false := by
  cases unjoined : Document.joined ", " names with
  | ok joined => exact absurd (Effect.texts_of_joined unjoined) others
  | error fault =>
    have some : (!names.isEmpty) = true := by
      cases names with
      | nil => exact absurd (fun name mem => nomatch mem) others
      | cons name names => rfl
    rw [nameAchievements, if_pos some]
    exact ⟨fault, outcome_bind_of_error (outcome_read unjoined desk) _,
      Document.joined_slips ", " names fault unjoined⟩

/-- What is told of a game below the heading of its ending. -/
def tellGame (state : GameState) : Console Unit := do
  let visited ← (Turn.visitedCount state : Turn Nat)
  printLine (s!"Scenes visited: {visited}  " ++
    s!"Story progress: {state.progress.storyProgress}%")
  nameAchievements state.progress.achievementsUnlocked

theorem outcome_printEnding {desk : Desk} {state : GameState}
    (isState : desk.sitting.engine.state = some state) :
    ∃ told, outcome printEnding desk = outcome (tellGame state) (desk.tell told) := by
  have there : outcome (liftM Turn.state : Console GameState) desk = (.ok state, desk) := by
    rw [outcome_ofTurn, Turn.outcome_state_of_some isState]
  have heading : Tells (do printLine ""; printLine "== The End ==") :=
    .bind (.print _) (.print _)
  obtain ⟨told, skipped⟩ := heading.skip (tellGame state) desk
  refine ⟨told, ?_⟩
  rw [printEnding, outcome_bind_of_ok there, ← skipped]
  rfl

theorem outcome_tellGame (desk : Desk) {state : GameState} {visited : Nat}
    (counted : Turn.visitedCount state = .ok visited) :
    ∃ told, outcome (tellGame state) desk =
      outcome (nameAchievements state.progress.achievementsUnlocked) (desk.tell told) := by
  obtain ⟨line, skipped⟩ :=
    (Tells.print _).skip (nameAchievements state.progress.achievementsUnlocked) desk
  exact ⟨line, (outcome_bind_of_ok (outcome_read counted desk) _).trans skipped⟩

/-- The end of a game can be told: there is a game, the scenes that it visited are named by keys,
and its achievements are called by texts. -/
structure CanTell (state : GameState) : Prop where
  visited : Document.AreKeys state.progress.scenesVisited
  unlocked : AreTexts state.progress.achievementsUnlocked

def CanEnd (s : Sitting) : Prop :=
  ∃ state, s.engine.state = some state ∧ CanTell state

theorem printEnding_tells {desk : Desk} (h : CanEnd desk.sitting) :
    ∃ told, outcome printEnding desk = (.ok (), desk.tell told) := by
  obtain ⟨state, isState, can⟩ := h
  obtain ⟨heading, reached⟩ := outcome_printEnding isState
  have neverFails : Result.FailsIn (fun _ => False) (Turn.visitedCount state) :=
    Turn.visitedCount_failsIn can.visited.odd
  cases counted : Turn.visitedCount state with
  | error fault => exact (neverFails fault counted).elim
  | ok visited =>
    obtain ⟨line, tells⟩ := outcome_tellGame (desk.tell heading) counted
    obtain ⟨names, ends⟩ := nameAchievements_tells can.unlocked ((desk.tell heading).tell line)
    refine ⟨heading ++ (line ++ names), ?_⟩
    rw [reached, tells, ends, Desk.tell_tell, Desk.tell_tell]

/-- Where the end of a game cannot be told, it comes to a fault that is none of the rules. -/
theorem printEnding_fails {desk : Desk} (h : ¬ CanEnd desk.sitting) :
    ∃ fault last, outcome printEnding desk = (.error fault, last) ∧ fault.isOfGame = false := by
  cases isState : desk.sitting.engine.state with
  | none =>
    have missing : outcome (liftM Turn.state : Console GameState) desk =
        (.error (.noField "NoneType" "state"), desk) := by
      rw [outcome_ofTurn, Turn.outcome_state, isState]
    exact ⟨_, _, outcome_bind_of_error missing _, rfl⟩
  | some state =>
    obtain ⟨heading, reached⟩ := outcome_printEnding isState
    rw [reached]
    have plain : Result.FailsIn (fun fault => fault.isOfGame = false) (Turn.visitedCount state) :=
      Turn.visitedCount_failsIn fun _ _ _ => rfl
    cases counted : Turn.visitedCount state with
    | error fault =>
      exact ⟨fault, _, outcome_bind_of_error (outcome_read counted _) _, plain fault counted⟩
    | ok visited =>
      have others : ¬ AreTexts state.progress.achievementsUnlocked := fun texts =>
        h ⟨state, isState, Turn.keys_of_visitedCount counted, texts⟩
      obtain ⟨line, tells⟩ := outcome_tellGame (desk.tell heading) counted
      obtain ⟨fault, fails, isPlain⟩ :=
        nameAchievements_fails others ((desk.tell heading).tell line)
      exact ⟨fault, _, tells.trans fails, isPlain⟩

end Console

/-! ## Lines that number a choice -/

namespace PlayerCommand

/-- The first word of a line, the blanks around the line left out. -/
def firstWord (line : String) : String :=
  (splitWord (trimBlank line)).1

theorem ofLine_of_isNumeral {line : String} (h : IsNumeral (firstWord line)) :
    ofLine line = .choose (firstWord line) := by
  have other : ∀ text, ¬ IsNumeral (splitWord text).1 → trimBlank line ≠ text := by
    rintro text unnumbered rfl
    exact unnumbered h
  have nonempty : (trimBlank line).isEmpty = false := by
    have := other "" fun numeral => numeral.1 rfl
    simpa using this
  have stays : ¬ ((trimBlank line = "q" || trimBlank line = "quit") = true) := by
    have q := other "q" fun numeral => absurd numeral.2 (by decide)
    have quit := other "quit" fun numeral => absurd numeral.2 (by decide)
    simp [q, quit]
  have digits : ((splitWord (trimBlank line)).1.toList.all isAnyDigit) = true := h.2
  rw [ofLine]
  simp only [nonempty, digits, if_true, Bool.false_eq_true, if_false]
  rw [if_neg stays]
  rfl

end PlayerCommand

open PlayerCommand

namespace Play

/-- The choice that a word numbers, if there is one. -/
def meant? (presented : PresentedScene) (word : String) : Option PresentedChoice :=
  (numeral? word).bind fun number => numbered? presented number

/-- How a command that numbers a choice should end: the choice is made; the player is told that
there is none, and nothing else happens; or it comes to a fault of the rules. -/
inductive Handled (presented : PresentedScene) (word : String) (desk : Desk) :
    Except Fault PresentedScene × Desk → Prop
  | made {offered : PresentedChoice} {made : ChoiceOutcome} {sitting : Sitting} {told : String}
      (meant : meant? presented word = some offered)
      (makes : outcome (Turn.makeChoice offered.choice.id) desk.sitting = (.ok made, sitting)) :
      Handled presented word desk
        (.ok (made.scene.getD presented), { sitting, printed := desk.printed ++ told })
  | absent (absent : meant? presented word = none) :
      Handled presented word desk (.ok presented, desk.tell "  No such choice.\n")
  | refused {fault : Fault} {last : Desk} (isOfGame : fault.isOfGame = true) :
      Handled presented word desk (.error fault, last)

/-- To make a choice comes to faults of the rules only, and if it ends the game this can be told. -/
structure Tame (id : Document) (s : Sitting) : Prop where
  fails : ∀ fault, fault? (Turn.makeChoice id) s = some fault → fault.isOfGame = true
  ends : ∀ made, result (Turn.makeChoice id) s = .ok made → made.scene = none →
    Console.CanEnd (after (Turn.makeChoice id) s)

/-- A word that can be read, and if it numbers a choice, one that is tame. -/
def Answerable (presented : PresentedScene) (word : String) (s : Sitting) : Prop :=
  IsLegible word ∧ ∀ offered, meant? presented word = some offered → Tame offered.choice.id s

/-- Shows where a choice led to, and gives the scene that is shown from then on. -/
def showNext (presented : PresentedScene) : Option PresentedScene → Console PresentedScene
  | some next => do
    Console.printScene next
    pure next
  | none => do
    Console.printEnding
    pure presented

def effectLines (made : ChoiceOutcome) : List String :=
  ((made.effects.map Outcome.description).filter fun d => !d.isEmpty).map fun d => s!"  * {d}"

variable {presented : PresentedScene} {word line : String} {desk : Desk}

theorem showNext_tells (presented : PresentedScene) {next : Option PresentedScene} {desk : Desk}
    (canEnd : next = none → Console.CanEnd desk.sitting) :
    ∃ told, outcome (showNext presented next) desk =
      (.ok (next.getD presented), desk.tell told) := by
  cases next with
  | some next =>
    obtain ⟨told, skipped⟩ := (Console.Tells.printScene next).skip (pure next) desk
    exact ⟨told, skipped⟩
  | none =>
    obtain ⟨told, ends⟩ := Console.printEnding_tells (canEnd rfl)
    exact ⟨told, outcome_bind_of_ok ends _⟩

theorem showNext_fails (presented : PresentedScene) {desk : Desk}
    (cannot : ¬ Console.CanEnd desk.sitting) :
    ∃ fault last, outcome (showNext presented none) desk = (.error fault, last) ∧
      fault.isOfGame = false := by
  obtain ⟨fault, last, ends, isPlain⟩ := Console.printEnding_fails cannot
  exact ⟨fault, last, outcome_bind_of_error ends _, isPlain⟩

/-! ### Where the command ends -/

theorem outcome_toInt {read : Result Int} (reads : (Document.text word).toInt = read) :
    outcome (liftM (liftM (Document.text word).toInt : Turn Int) : Console Int) desk =
      (read, desk) := by
  rw [Console.outcome_ofTurn, Turn.outcome_lift, reads]

theorem outcome_choose_of_error {fault : Fault}
    (unread : (Document.text word).toInt = .error fault) :
    outcome (choose presented word) desk = (.error fault, desk) :=
  outcome_bind_of_error (outcome_toInt unread) _

section Read

variable {number : Int} (read : (Document.text word).toInt = .ok number)
include read

theorem outcome_choose_of_absent (absent : numbered? presented number = none) :
    outcome (choose presented word) desk = (.ok presented, desk.tell "  No such choice.\n") := by
  rw [choose, outcome_bind_of_ok (outcome_toInt read), absent]
  rfl

variable {offered : PresentedChoice} (offers : numbered? presented number = some offered)
  {sitting : Sitting}
include offers

theorem outcome_choose_of_failed {fault : Fault}
    (fails : outcome (Turn.makeChoice offered.choice.id) desk.sitting = (.error fault, sitting)) :
    outcome (choose presented word) desk = (.error fault, { desk with sitting }) := by
  rw [choose, outcome_bind_of_ok (outcome_toInt read), offers]
  exact outcome_bind_of_error (by rw [Console.outcome_ofTurn, fails]) _

theorem outcome_choose_of_made {made : ChoiceOutcome}
    (makes : outcome (Turn.makeChoice offered.choice.id) desk.sitting = (.ok made, sitting)) :
    ∃ told, outcome (choose presented word) desk =
      outcome (showNext presented made.scene) ({ desk with sitting }.tell told) := by
  have makes' : outcome (liftM (Turn.makeChoice offered.choice.id) : Console ChoiceOutcome) desk =
      (.ok made, { desk with sitting }) := by
    rw [Console.outcome_ofTurn, makes]
  have lines : Console.Tells (Console.printLines (effectLines made)) := .printLines _
  obtain ⟨told, skipped⟩ := lines.skip (showNext presented made.scene) { desk with sitting }
  refine ⟨told, ?_⟩
  rw [choose, outcome_bind_of_ok (outcome_toInt read), offers]
  rw [← skipped]
  refine (outcome_bind_of_ok makes' _).trans ?_
  cases made.scene <;> rfl

end Read

/-- A word that can be read, and numbers no choice or a tame one, is handled. -/
theorem handled_of_answerable (h : IsNumeral word)
    (answerable : Answerable presented word desk.sitting) :
    Handled presented word desk (outcome (choose presented word) desk) := by
  obtain ⟨number, means, read⟩ := toInt_of_isLegible h answerable.1
  have same : meant? presented word = numbered? presented number := by
    rw [meant?, means, Option.bind_some]
  cases offers : numbered? presented number with
  | none =>
    rw [outcome_choose_of_absent read offers]
    exact .absent (same.trans offers)
  | some offered =>
    have tame := answerable.2 offered (same.trans offers)
    rcases makes : outcome (Turn.makeChoice offered.choice.id) desk.sitting with
      ⟨fault | made, sitting⟩
    · rw [outcome_choose_of_failed read offers makes]
      exact .refused (tame.fails fault (by rw [fault?, result, makes]))
    · obtain ⟨told, shows⟩ := outcome_choose_of_made read offers makes
      have canEnd : made.scene = none → Console.CanEnd sitting := by
        have ends := tame.ends made
        rw [result, after, makes] at ends
        exact ends rfl
      have reached : made.scene = none → Console.CanEnd ({ desk with sitting }.tell told).sitting :=
        canEnd
      obtain ⟨more, ends⟩ := showNext_tells presented reached
      rw [shows, ends, Desk.tell_tell]
      exact .made (same.trans offers) makes

/-- A choice that is not tame comes to a fault that is none of the rules, or ends a game whose end
cannot be told. -/
theorem not_tame {id : Document} {s : Sitting} (wild : ¬ Tame id s) :
    (∃ fault sitting, outcome (Turn.makeChoice id) s = (.error fault, sitting) ∧
        fault.isOfGame = false) ∨
      ∃ made sitting, outcome (Turn.makeChoice id) s = (.ok made, sitting) ∧ made.scene = none ∧
        ¬ Console.CanEnd sitting := by
  rcases ends : outcome (Turn.makeChoice id) s with ⟨fault | made, sitting⟩
  · refine .inl ⟨fault, sitting, rfl, ?_⟩
    by_contra isOfGame
    rw [Bool.not_eq_false] at isOfGame
    refine wild ⟨fun fault' failed => ?_, fun made returned => ?_⟩
    · rw [fault?, result, ends] at failed
      cases failed
      exact isOfGame
    · rw [result, ends] at returned
      cases returned
  · refine .inr ⟨made, sitting, rfl, ?_⟩
    by_contra can
    refine wild ⟨fun fault failed => ?_, fun made' returned last => ?_⟩
    · rw [fault?, result, ends] at failed
      cases failed
    · rw [result, ends] at returned
      cases returned
      rw [after, ends]
      exact not_not.1 fun cannot => can ⟨last, cannot⟩

theorem fails_of_not_answerable (h : IsNumeral word)
    (unanswerable : ¬ Answerable presented word desk.sitting) :
    ∃ fault last, outcome (choose presented word) desk = (.error fault, last) ∧
      fault.isOfGame = false := by
  by_cases legible : IsLegible word
  · obtain ⟨number, means, read⟩ := toInt_of_isLegible h legible
    obtain ⟨offered, meant, wild⟩ : ∃ offered, meant? presented word = some offered ∧
        ¬ Tame offered.choice.id desk.sitting := by
      by_contra none
      exact unanswerable ⟨legible, fun offered meant => not_not.1 fun wild =>
        none ⟨offered, meant, wild⟩⟩
    have offers : numbered? presented number = some offered := by
      rwa [meant?, means, Option.bind_some] at meant
    rcases not_tame wild with
      ⟨fault, sitting, fails, isPlain⟩ | ⟨made, sitting, makes, last, cannot⟩
    · exact ⟨fault, _, outcome_choose_of_failed read offers fails, isPlain⟩
    · obtain ⟨told, shows⟩ := outcome_choose_of_made read offers makes
      have reached : ¬ Console.CanEnd ({ desk with sitting }.tell told).sitting := cannot
      obtain ⟨fault, final, ends, isPlain⟩ := showNext_fails presented reached
      rw [last] at shows
      exact ⟨fault, final, shows.trans ends, isPlain⟩
  · obtain ⟨fault, unread⟩ := toInt_of_not_isLegible h legible
    exact ⟨_, _, outcome_choose_of_error unread, rfl⟩

/-! ### Where the line ends -/

/-- A command whose faults of the rules are told to the player, who is shown the same scene then. -/
def attempt (presented : PresentedScene) (command : Console PresentedScene) :
    Console PresentedScene :=
  tryCatch command fun fault => do
    if fault.isOfGame then
      Console.printLine s!"  {fault.message}"
      pure presented
    else throw fault

theorem answer_of_isNumeral (h : IsNumeral (firstWord line)) :
    answer presented line = (do
      let next ← attempt presented (choose presented (firstWord line))
      pure (if (← (Turn.engine : Console Engine)).status = .ended then none else some next)) := by
  rw [answer, ofLine_of_isNumeral h]
  rfl

/-- The loop goes on, or ends with the game, after a line whose command was handled. -/
theorem answer_of_handled (h : IsNumeral (firstWord line))
    (handled : Handled presented (firstWord line) desk
      (outcome (choose presented (firstWord line)) desk)) :
    fault? (answer presented line) desk = none := by
  obtain ⟨next, last, attempted⟩ : ∃ next last,
      outcome (attempt presented (choose presented (firstWord line))) desk = (.ok next, last) := by
    rw [attempt, outcome_tryCatch]
    generalize outcome (choose presented (firstWord line)) desk = ends at handled ⊢
    cases handled with
    | made meant makes => exact ⟨_, _, rfl⟩
    | absent absent => exact ⟨_, _, rfl⟩
    | refused isOfGame =>
      dsimp only
      rw [if_pos isOfGame]
      exact ⟨_, _, rfl⟩
  rw [fault?, result, answer_of_isNumeral h, outcome_bind_of_ok attempted]
  rfl

theorem answer_of_fault {fault : Fault} {last : Desk} (h : IsNumeral (firstWord line))
    (ends : outcome (choose presented (firstWord line)) desk = (.error fault, last))
    (isPlain : fault.isOfGame = false) :
    outcome (answer presented line) desk = (.error fault, last) := by
  have attempted : outcome (attempt presented (choose presented (firstWord line))) desk =
      (.error fault, last) := by
    rw [attempt, outcome_tryCatch, ends]
    dsimp only
    rw [if_neg (by simp [isPlain])]
    rfl
  rw [answer_of_isNumeral h]
  exact outcome_bind_of_error attempted _

theorem run_of_answer {before last : Desk} {fault : Fault}
    (prompts : outcome prompt before = (.ok (), desk))
    (fails : outcome (answer presented line) desk = (.error fault, last)) (lines : List String) :
    outcome (run presented (line :: lines)) before = (.error fault, last) := by
  rw [run, outcome_bind_of_ok prompts]
  exact outcome_bind_of_error fails _

/-- A line that numbers a choice ends as it should, and the loop goes on, exactly if the word can be
read and the choice that it numbers, if there is one, is tame.  A word that cannot be read ends the
loop, whatever would have been typed later, with the game as it was. -/
theorem numeral_line_handled_iff (presented : PresentedScene) {line : String} (desk : Desk)
    (h : IsNumeral (firstWord line)) :
    (Handled presented (firstWord line) desk (outcome (perform presented (.ofLine line)) desk) ↔
      Answerable presented (firstWord line) desk.sitting) ∧
    (fault? (answer presented line) desk = none ↔
      Answerable presented (firstWord line) desk.sitting) ∧
    (¬ IsLegible (firstWord line) →
      ∃ fault, outcome (answer presented line) desk = (.error (.value fault), desk) ∧
        ∀ (before : Desk) (lines : List String), outcome prompt before = (.ok (), desk) →
          outcome (run presented (line :: lines)) before = (.error (.value fault), desk)) := by
  have performs : perform presented (.ofLine line) = choose presented (firstWord line) := by
    rw [ofLine_of_isNumeral h]
    rfl
  rw [performs]
  refine ⟨⟨fun handled => ?_, handled_of_answerable h⟩,
    ⟨fun goesOn => ?_, fun answerable => answer_of_handled h (handled_of_answerable h answerable)⟩,
    fun illegible => ?_⟩
  · by_contra unanswerable
    obtain ⟨fault, last, ends, isPlain⟩ := fails_of_not_answerable h unanswerable
    rw [ends] at handled
    cases handled with
    | refused isOfGame => exact absurd (isPlain.symm.trans isOfGame) (by decide)
  · by_contra unanswerable
    obtain ⟨fault, last, ends, isPlain⟩ := fails_of_not_answerable h unanswerable
    rw [fault?, result, answer_of_fault h ends isPlain] at goesOn
    cases goesOn
  · obtain ⟨fault, unread⟩ := toInt_of_not_isLegible h illegible
    have fails : outcome (answer presented line) desk = (.error (.value fault), desk) :=
      answer_of_fault h (outcome_choose_of_error unread) rfl
    exact ⟨fault, fails, fun before lines prompts => run_of_answer prompts fails lines⟩

end Play

/-! ### At the finale -/

namespace Finale

open Play

def hallShown : PresentedScene where
  scene := hall
  content := "A hall."
  choices := [⟨leave, "Leave"⟩]
  metadata := [("processedAt", .text "1970-01-12T13:46:40+00:00"), ("availableChoices", .int 1),
    ("contentLength", .int 7)]

def hallDesk : Desk where
  sitting := fresh.run toHall

/-- A wide digit of another script numbers the choice that ends the story. -/
theorem wide_one_handled :
    hallDesk.sitting.engine.scene = some hallShown ∧ firstWord "  １ now" = "１" ∧
    IsNumeral (firstWord "  １ now") ∧ meant? hallShown "１" = some ⟨leave, "Leave"⟩ ∧
    Handled hallShown (firstWord "  １ now") hallDesk
      (outcome (perform hallShown (.ofLine "  １ now")) hallDesk) ∧
    fault? (answer hallShown "  １ now") hallDesk = none := by
  have word : firstWord "  １ now" = "１" := by decide +kernel
  have numeral : IsNumeral "１" := ⟨by decide, by decide⟩
  have legible : IsLegible "１" := ⟨by decide, by decide⟩
  have meant : meant? hallShown "１" = some ⟨leave, "Leave"⟩ := by decide
  have made : hallDesk.sitting.engine.scene = some hallShown ∧
      fault? (Turn.makeChoice leave.id) hallDesk.sitting = none ∧
      (after (Turn.makeChoice leave.id) hallDesk.sitting).engine.state.map
        (fun state => (state.progress.scenesVisited, state.progress.achievementsUnlocked)) =
          some ([.text "hall"], []) := by
    decide +kernel
  obtain ⟨shown, returns, progress⟩ := made
  obtain ⟨state, isState, same⟩ := Option.map_eq_some_iff.1 progress
  obtain ⟨visited, unlocked⟩ := Prod.mk.inj same
  have canTell : Console.CanTell state := by
    refine ⟨?_, ?_⟩
    · rw [visited]
      exact List.forall_mem_singleton.2 rfl
    · rw [unlocked]
      exact nofun
  have tame : Tame leave.id hallDesk.sitting := by
    refine ⟨fun fault failed => ?_, fun _ _ _ => ⟨state, isState, canTell⟩⟩
    rw [returns] at failed
    cases failed
  have answerable : Answerable hallShown "１" hallDesk.sitting := by
    refine ⟨legible, fun offered isMeant => ?_⟩
    rw [meant] at isMeant
    cases isMeant
    exact tame
  rw [← word] at numeral answerable
  have handled := numeral_line_handled_iff hallShown hallDesk numeral
  exact ⟨shown, word, numeral, meant, handled.1.2 answerable, handled.2.1.2 answerable⟩

/-- A superscript ends the loop with a fault that is none of the rules, in the middle of a game. -/
theorem superscript_two_unhandled :
    hallDesk.sitting.engine.scene = some hallShown ∧ hallDesk.sitting.engine.status = .running ∧
    IsNumeral (firstWord "²") ∧
    ¬ Handled hallShown (firstWord "²") hallDesk
      (outcome (perform hallShown (.ofLine "²")) hallDesk) ∧
    fault? (run hallShown ["²", "q"]) hallDesk = some (.value (.notAnInt "²")) := by
  have ends : hallDesk.sitting.engine.scene = some hallShown ∧
      hallDesk.sitting.engine.status = .running ∧
      fault? (perform hallShown (.ofLine "²")) hallDesk = some (.value (.notAnInt "²")) ∧
      fault? (run hallShown ["²", "q"]) hallDesk = some (.value (.notAnInt "²")) := by
    decide +kernel
  obtain ⟨shown, running, raised, escapes⟩ := ends
  refine ⟨shown, running, ⟨by decide +kernel, by decide +kernel⟩, fun handled => ?_, escapes⟩
  rw [outcome_of_fault? raised] at handled
  cases handled with
  | refused isOfGame => exact absurd isOfGame (by decide)

end Finale

end InteractiveFiction
