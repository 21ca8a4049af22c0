import InteractiveFiction.Cast
import InteractiveFiction.Proofs.Backdrop
import InteractiveFiction.Proofs.Fields
import InteractiveFiction.Proofs.Number.Order
import Mathlib.Data.List.Chain

/-!
Gifts to the characters of a game, through any scenes and interactions, and what characters say.

What a cast knows of a character outlives the scenes in which they are met, and of all that can be
done only a gift that succeeds changes when the last one was given.  What a character says depends on
the relationship and the flags alone.

* `CastCall.lastGift_next`: what one call makes of the time of the last gift.
* `CastCall.lastGift_along`: after any calls it is the time of the last gift that succeeded.
* `CastCall.gift_refused_iff`: hence a gift is refused exactly if the last one is too recent, and no
  two gifts in a row are closer than that.
* `DialogueLine.Eligible`, `DialogueLine.Prevails`: which lines may be said, and which one of them is.
* `Character.talk_says_best`: talk succeeds exactly if some line may be said, and then the line that
  prevails is said.
-/

set_option autoImplicit false

namespace InteractiveFiction

open Course

/-- A gift was given less than a cooldown ago.  When the clock was set back this counts as recent
too. -/
def TooSoon (last now : Instant) : Prop :=
  (Number.float (now - last)).lt (.int giftCooldown) = true

instance (last now : Instant) : Decidable (TooSoon last now) :=
  inferInstanceAs (Decidable (_ = true))

namespace Cast

/-- When a character was last given something, as far as the cast remembers. -/
def lastGift (cast : Cast) (id : Document) : Option Instant :=
  (cast.disposition? id).bind Disposition.lastGiftAt

/-! ## What is remembered -/

theorem disposition?_remember (cast : Cast) (id other : Document) (disposition : Disposition) :
    (cast.remember id disposition).disposition? other =
      if other = id then some disposition else cast.disposition? other := by
  unfold remember
  split
  · rename_i known
    change List.lookup other (cast.known.map _) = _
    rw [Fields.lookup_overwrite]
    by_cases same : other = id
    · subst same
      obtain ⟨old, found⟩ := Option.isSome_iff_exists.1 known
      rw [if_pos rfl, if_pos rfl, ← disposition?, found]
      rfl
    · rw [if_neg same, if_neg same]
      rfl
  · rename_i unknown
    change List.lookup other (cast.known ++ _) = _
    rw [List.lookup_append]
    by_cases same : other = id
    · subst same
      rw [if_pos rfl, ← disposition?, Option.not_isSome_iff_eq_none.1 unknown]
      simp
    · have differs : (other == id) = false := by simpa using same
      simp [same, List.lookup_cons, differs, disposition?]

theorem lastGift_remember (cast : Cast) (id other : Document) (disposition : Disposition) :
    (cast.remember id disposition).lastGift other =
      if other = id then disposition.lastGiftAt else cast.lastGift other := by
  rw [lastGift, disposition?_remember]
  split <;> rfl

theorem lastGift_meet (cast : Cast) (id other : Document) :
    (cast.meet id).lastGift other = cast.lastGift other := by
  unfold meet
  split
  · rfl
  · rename_i unknown
    rw [lastGift_remember]
    split
    · rename_i same
      subst same
      rw [lastGift, Option.not_isSome_iff_eq_none.1 unknown]
      rfl
    · rfl

theorem lastGift_enter (cast : Cast) (characters : List Character) (id : Document) :
    (cast.enter characters).lastGift id = cast.lastGift id := by
  suffices met : ∀ cast : Cast,
      (characters.foldl (fun cast character => cast.meet character.id) cast).lastGift id =
        cast.lastGift id from met _
  induction characters with
  | nil => exact fun _ => rfl
  | cons character characters ih => exact fun cast => (ih _).trans (lastGift_meet cast _ id)

end Cast

/-! ## One interaction -/

theorem InteractionKind.eq_of_ofDocument? {d : Document} (named : ofDocument? d = some .gift) :
    d = "gift" := by
  unfold ofDocument? at named
  split at named <;> first | rfl | cases named

theorem Action.outcome_now (stage : Stage) :
    outcome Action.now stage = (.ok stage.now, stage) := rfl

namespace Cast

variable {now : Instant} {state : GameState} {disposition disposition' : Disposition}
  {character : Character} {kind : InteractionKind} {reply : Interaction}

/-- Of the four kinds only a gift changes when the last gift was given, and only one that is
taken. -/
theorem lastGiftAt_respond
    (ends : respond now state disposition character kind = .ok (reply, disposition')) :
    disposition'.lastGiftAt =
      if kind = .gift ∧ reply.success = true then some now else disposition.lastGiftAt := by
  cases kind with
  | talk =>
    obtain ⟨talked, -, ends⟩ := Result.ok_of_bind ends
    cases ends
    rfl
  | trade =>
    obtain ⟨traded, -, ends⟩ := Result.ok_of_bind ends
    cases ends
    rfl
  | quest =>
    cases ends
    rfl
  | gift =>
    have received : character.receive now (state.relationship character.id) disposition =
        (reply, disposition') := Except.ok.inj ends
    unfold Character.receive at received
    split at received <;> cases received <;> rfl

/-- A gift is never without an answer: it is refused for the last one, or else it is taken. -/
theorem respond_gift (now : Instant) (state : GameState) (disposition : Disposition)
    (character : Character) : ∃ reply disposition',
    respond now state disposition character .gift = .ok (reply, disposition') ∧
      (reply.success = false ↔ ∃ last, disposition.lastGiftAt = some last ∧ TooSoon last now) := by
  let received := character.receive now (state.relationship character.id) disposition
  have sated : received.1.success = !Character.isSated now disposition := by
    dsimp only [received]
    unfold Character.receive
    cases Character.isSated now disposition <;> rfl
  refine ⟨received.1, received.2, rfl, ?_⟩
  rw [sated, Bool.not_eq_false', Character.isSated]
  cases disposition.lastGiftAt with
  | none => simp
  | some last => simp [TooSoon]

variable {cast cast' : Cast} {id kindText : Document} {stage : Stage} {interaction : Interaction}

theorem interact_of_respond (present : cast.character? id = some character)
    (named : InteractionKind.ofDocument? kindText = some kind)
    (responds : respond stage.now stage.state ((cast.disposition? id).getD {}) character kind =
      .ok (reply, disposition')) :
    ∃ interaction mood, result (cast.interact id kindText) stage =
        .ok (interaction, cast.remember id
          { disposition' with mood := mood, lastInteraction := some kind }) ∧
      interaction.success = reply.success := by
  unfold interact
  rw [present]
  dsimp only
  rw [named]
  dsimp only
  rw [result, outcome_bind_of_ok (Action.outcome_state stage),
    outcome_bind_of_ok (Action.outcome_now stage), outcome_bind, Action.outcome_lift, responds]
  exact ⟨_, _, rfl, rfl⟩

/-- An interaction that succeeds or is refused is one of a character who is present, of a kind that
is known. -/
theorem respond_of_interact
    (ends : result (cast.interact id kindText) stage = .ok (interaction, cast')) :
    ∃ character kind reply disposition', cast.character? id = some character ∧
      InteractionKind.ofDocument? kindText = some kind ∧
      respond stage.now stage.state ((cast.disposition? id).getD {}) character kind =
        .ok (reply, disposition') := by
  unfold interact at ends
  cases present : cast.character? id with
  | none =>
    rw [present] at ends
    obtain ⟨_, _, _, raised⟩ := ok_of_outcome_bind (Prod.ext ends rfl)
    cases raised
  | some character =>
    cases named : InteractionKind.ofDocument? kindText with
    | none =>
      rw [present, named] at ends
      cases ends
    | some kind =>
      rw [present] at ends
      dsimp only at ends
      rw [named] at ends
      dsimp only at ends
      rw [result, outcome_bind_of_ok (Action.outcome_state stage),
        outcome_bind_of_ok (Action.outcome_now stage), outcome_bind, Action.outcome_lift] at ends
      cases responds :
        respond stage.now stage.state ((cast.disposition? id).getD {}) character kind with
      | error fault =>
        rw [responds] at ends
        cases ends
      | ok answered => exact ⟨character, kind, answered.1, answered.2, rfl, rfl, responds⟩

theorem lastGift_getD (cast : Cast) (id : Document) :
    ((cast.disposition? id).getD {}).lastGiftAt = cast.lastGift id := by
  unfold lastGift
  cases cast.disposition? id <;> rfl

/-- What one interaction makes of the time of the last gift to anyone. -/
theorem lastGift_interact (other : Document)
    (ends : result (cast.interact id kindText) stage = .ok (interaction, cast')) :
    cast'.lastGift other =
      if other = id ∧ InteractionKind.ofDocument? kindText = some .gift ∧ interaction.success = true
        then some stage.now else cast.lastGift other := by
  obtain ⟨character, kind, reply, disposition', present, named, responds⟩ :=
    respond_of_interact ends
  obtain ⟨interaction', mood, ends', same⟩ := interact_of_respond present named responds
  obtain ⟨rfl, rfl⟩ := Prod.mk.inj (Except.ok.inj (ends.symm.trans ends'))
  rw [lastGift_remember, named, same]
  by_cases own : other = id
  · subst own
    rw [if_pos rfl, lastGiftAt_respond responds, lastGift_getD]
    simp
  · simp [own]

/-- A gift to someone who is present is answered: it is refused exactly if the last one is too
recent. -/
theorem interact_gift (present : cast.character? id = some character) (stage : Stage) :
    ∃ interaction cast', result (cast.interact id "gift") stage = .ok (interaction, cast') ∧
      (interaction.success = false ↔
        ∃ last, cast.lastGift id = some last ∧ TooSoon last stage.now) := by
  have named : InteractionKind.ofDocument? "gift" = some .gift := rfl
  obtain ⟨reply, disposition', responds, refused⟩ :=
    respond_gift stage.now stage.state ((cast.disposition? id).getD {}) character
  obtain ⟨interaction, mood, ends, same⟩ := interact_of_respond present named responds
  refine ⟨interaction, _, ends, ?_⟩
  rw [same, refused, lastGift_getD]

end Cast

/-! ## Sequences of calls -/

/-- What is done with a cast.  Each interaction finds the clock and the game as they are then; what
listeners to its event do comes after it. -/
inductive CastCall where
  | enter (characters : List Character)
  | interact (stage : Stage) (id kind : Document)

namespace CastCall

/-- The cast after a call; a call that fails leaves it as it was. -/
def next (cast : Cast) : CastCall → Cast
  | enter characters => cast.enter characters
  | interact stage id kind =>
    match result (cast.interact id kind) stage with
    | .ok (_, cast) => cast
    | .error _ => cast

def along (cast : Cast) (calls : List CastCall) : Cast :=
  calls.foldl next cast

/-- When the call gives something to a character who takes it. -/
def giftTo? (id : Document) (cast : Cast) : CastCall → Option Instant
  | enter _ => none
  | interact stage other kind =>
    match result (cast.interact other kind) stage with
    | .ok (interaction, _) =>
      if id = other ∧ InteractionKind.ofDocument? kind = some .gift ∧ interaction.success = true
        then some stage.now else none
    | .error _ => none

/-- The times of all gifts that a character took along some calls. -/
def giftsTo (id : Document) (cast : Cast) : List CastCall → List Instant
  | [] => []
  | call :: calls => (call.giftTo? id cast).toList ++ giftsTo id (call.next cast) calls

theorem lastGift_next (id : Document) (cast : Cast) (call : CastCall) :
    (call.next cast).lastGift id = (call.giftTo? id cast).or (cast.lastGift id) := by
  cases call with
  | enter characters => exact cast.lastGift_enter characters id
  | interact stage other kind =>
    unfold next giftTo?
    dsimp only
    cases ends : result (cast.interact other kind) stage with
    | error fault => rfl
    | ok given =>
      dsimp only
      rw [Cast.lastGift_interact id ends]
      split <;> rfl

theorem lastGift_along (id : Document) (cast : Cast) (calls : List CastCall) :
    (along cast calls).lastGift id =
      ((giftsTo id cast calls).getLast?).or (cast.lastGift id) := by
  induction calls generalizing cast with
  | nil => rfl
  | cons call calls ih =>
    have rest := ih (call.next cast)
    have one : (call.giftTo? id cast).toList.getLast? = call.giftTo? id cast := by
      cases call.giftTo? id cast <;> rfl
    rw [lastGift_next] at rest
    rw [giftsTo, List.getLast?_append, Option.or_assoc, one]
    exact rest

/-- What is taken was not given too soon after the last gift. -/
theorem not_tooSoon_of_giftTo? {id : Document} {cast : Cast} {call : CastCall} {now last : Instant}
    (taken : call.giftTo? id cast = some now) (before : cast.lastGift id = some last) :
    ¬ TooSoon last now := by
  cases call with
  | enter characters => cases taken
  | interact stage other kind =>
    unfold giftTo? at taken
    dsimp only at taken
    cases ends : result (cast.interact other kind) stage with
    | error fault =>
      rw [ends] at taken
      cases taken
    | ok given =>
      rw [ends] at taken
      dsimp only at taken
      split at taken
      · rename_i gift
        obtain ⟨rfl, named, success⟩ := gift
        cases taken
        obtain ⟨character, _, _, _, present, -, -⟩ := Cast.respond_of_interact ends
        obtain rfl := InteractionKind.eq_of_ofDocument? named
        obtain ⟨interaction, cast', ends', refused⟩ := Cast.interact_gift present stage
        obtain rfl : given = (interaction, cast') := Except.ok.inj (ends.symm.trans ends')
        intro soon
        rw [refused.2 ⟨last, before, soon⟩] at success
        cases success
      · cases taken

/-- No gift is taken too soon after the one before it, the first of them not too soon after what the
cast remembered. -/
theorem isChain_giftsTo (id : Document) (cast : Cast) (calls : List CastCall) :
    ((cast.lastGift id).toList ++ giftsTo id cast calls).IsChain
      fun last now => ¬ TooSoon last now := by
  induction calls generalizing cast with
  | nil =>
    rw [giftsTo, List.append_nil]
    cases cast.lastGift id with
    | none => exact .nil
    | some last => exact .singleton last
  | cons call calls ih =>
    have rest := ih (call.next cast)
    rw [lastGift_next] at rest
    rw [giftsTo]
    cases taken : call.giftTo? id cast with
    | none =>
      rw [taken] at rest
      exact rest
    | some now =>
      rw [taken] at rest
      cases before : cast.lastGift id with
      | none => exact rest
      | some last => exact .cons_cons (not_tooSoon_of_giftTo? taken before) rest

/-- Whoever is met and whatever is done with them, at any times: a gift to someone who is present is
refused exactly if they took one before and the last that they took is too recent.  So no two gifts
that someone takes one after the other are closer than the cooldown. -/
theorem gift_refused_iff (calls : List CastCall) (id : Document) :
    (∀ (stage : Stage) (character : Character),
      (along {} calls).character? id = some character →
        ∃ interaction cast, result ((along {} calls).interact id "gift") stage =
            .ok (interaction, cast) ∧
          (interaction.success = false ↔
            ∃ last, (giftsTo id {} calls).getLast? = some last ∧ TooSoon last stage.now)) ∧
      (giftsTo id {} calls).IsChain fun last now => ¬ TooSoon last now := by
  have remembered : (along {} calls).lastGift id = (giftsTo id {} calls).getLast? := by
    rw [lastGift_along]
    exact Option.or_none
  constructor
  · intro stage character present
    rw [← remembered]
    exact Cast.interact_gift present stage
  · exact isChain_giftsTo id {} calls

/-! ### A keeper who likes tea -/

def keeper : Character :=
  { id := "keeper", name := "The keeper", preferences := [("likes", .list ["tea"])] }

def eveningAt (now : Instant) : Stage where
  now := now
  state := GameState.starting 0 "game" "lantern" "garden" "Ann" {}

/-- A gift, talk and another gift after the garden was left and entered again, a gift when the clock
was set back, and one a day after the first. -/
def visits : List CastCall :=
  [.enter [keeper], .interact (eveningAt 1000) "keeper" "gift",
    .interact (eveningAt 1001) "keeper" "talk", .enter [], .enter [keeper],
    .interact (eveningAt 87399) "keeper" "gift", .interact (eveningAt 500) "keeper" "gift",
    .interact (eveningAt 87400) "keeper" "gift"]

theorem keeper_refuses_soon_after_second :
    (along {} visits).character? "keeper" = some keeper ∧
      giftsTo "keeper" {} visits = [1000, 87400] ∧
      (∃ interaction cast, result ((along {} visits).interact "keeper" "gift") (eveningAt 87401) =
        .ok (interaction, cast) ∧ interaction.success = false) ∧
      ∃ interaction cast, result ((along {} visits).interact "keeper" "gift") (eveningAt 173800) =
        .ok (interaction, cast) ∧ interaction.success = true := by
  obtain ⟨present, given, soon, late⟩ : (along {} visits).character? "keeper" = some keeper ∧
      giftsTo "keeper" {} visits = [1000, 87400] ∧ TooSoon 87400 87401 ∧
      ¬ TooSoon 87400 173800 := by decide +kernel
  have answers := (gift_refused_iff visits "keeper").1
  rw [given] at answers
  obtain ⟨early, cast, refusal, refused⟩ := answers (eveningAt 87401) keeper present
  obtain ⟨other, cast', thanks, taken⟩ := answers (eveningAt 173800) keeper present
  refine ⟨present, given, ⟨early, cast, refusal, refused.2 ⟨87400, rfl, soon⟩⟩,
    other, cast', thanks, Bool.not_eq_false _ ▸ fun refused => ?_⟩
  obtain ⟨last, isLast, recent⟩ := taken.1 refused
  cases isLast
  exact late recent

end CastCall

/-! ## What characters say -/

namespace DialogueLine

/-! ### Lines that may be said -/

/-- The least relationship that a line asks for, if it asks for any, is a number that others can be
compared with. -/
def Measured (line : DialogueLine) : Prop :=
  line.minRelationship = .null ∨
    ∃ least, line.minRelationship.number? = some least ∧ least.Compares

/-- A line that may be said: the relationship is at least what the line asks for, and each flag that
it asks for has that value, as a truth value if and only if it asks for one. -/
structure Eligible (state : GameState) (relationship : Int) (line : DialogueLine) : Prop where
  reached : line.minRelationship = .null ∨
    ∃ least, line.minRelationship.number? = some least ∧ least.le (.int relationship) = true
  flags : ∀ wanted ∈ line.requiredFlags,
    (state.flags.value wanted.1).equals wanted.2 = true ∧
      (state.flags.value wanted.1).isBool = wanted.2.isBool

/-- Of the lines that may be said one prevails: none has a higher priority, none of its priority is
closer to the relationship at which it is best, and it is the first of those for which that is so. -/
structure Prevails (state : GameState) (relationship : Int) (lines : List DialogueLine)
    (line : DialogueLine) : Prop where
  eligible : line.Eligible state relationship
  foremost : ∀ other ∈ lines, other.Eligible state relationship → other.priority ≤ line.priority
  closest : ∀ other ∈ lines, other.Eligible state relationship →
    other.priority = line.priority → line.distance relationship ≤ other.distance relationship
  first : ∃ before after, lines = before ++ line :: after ∧
    ∀ other ∈ before, other.Eligible state relationship →
      ¬ (other.priority = line.priority ∧
        other.distance relationship = line.distance relationship)

variable {state : GameState} {relationship : Int} {line : DialogueLine}

theorem Prevails.mem {lines : List DialogueLine}
    (prevails : line.Prevails state relationship lines) : line ∈ lines := by
  obtain ⟨before, after, rfl, -⟩ := prevails.first
  simp

/-- Whether each flag has the value that the line asks for. -/
def wantsFlags (state : GameState) (line : DialogueLine) : Bool :=
  line.requiredFlags.all fun (flag, value) => wantsFlag state flag value

theorem wantsFlags_iff : line.wantsFlags state = true ↔
    ∀ wanted ∈ line.requiredFlags, (state.flags.value wanted.1).equals wanted.2 = true ∧
      (state.flags.value wanted.1).isBool = wanted.2.isBool := by
  simp only [wantsFlags, List.all_eq_true, wantsFlag, Bool.and_eq_true, beq_iff_eq]

theorem isOpen_of_null (none : line.minRelationship = .null) :
    line.isOpen state relationship = .ok (line.wantsFlags state) := by
  rw [isOpen, none]
  rfl

theorem isOpen_of_number {least : Number} (asks : line.minRelationship.number? = some least) :
    line.isOpen state relationship =
      .ok (!(Number.int relationship).lt least && line.wantsFlags state) := by
  unfold isOpen
  cases given : line.minRelationship with
  | null | text _ | list _ | object _ =>
    rw [given] at asks
    cases asks
  | bool _ | number _ =>
    rw [given] at asks
    cases asks
    rfl

theorem isOpen_fails (asks : line.minRelationship ≠ .null)
    (incomparable : line.minRelationship.number? = none) :
    ∃ fault, line.isOpen state relationship = .error fault := by
  unfold isOpen
  cases given : line.minRelationship with
  | null => exact absurd given asks
  | text _ | list _ | object _ => exact ⟨_, rfl⟩
  | bool _ | number _ =>
    rw [given] at incomparable
    cases incomparable

theorem isOpen_of_measured (measured : line.Measured) : ∃ opened,
    line.isOpen state relationship = .ok opened ∧
      (opened = true ↔ line.Eligible state relationship) := by
  rcases measured with none | ⟨least, asks, compares⟩
  · refine ⟨_, isOpen_of_null none, ?_⟩
    rw [wantsFlags_iff]
    exact ⟨fun flags => ⟨.inl none, flags⟩, Eligible.flags⟩
  · refine ⟨_, isOpen_of_number asks, ?_⟩
    have reached : (!(Number.int relationship).lt least) = true ↔
        least.le (.int relationship) = true := by
      have level := (Number.compares_of_le (Number.int_le_int.2 (Int.le_refl relationship))).1
      rw [Bool.not_eq_true', ← Bool.not_eq_true, ← Number.not_le_iff_lt_iff.2 ⟨compares, level⟩,
        Bool.not_eq_false]
    rw [Bool.and_eq_true, wantsFlags_iff, reached]
    constructor
    · rintro ⟨le, flags⟩
      exact ⟨.inr ⟨least, asks, le⟩, flags⟩
    · rintro ⟨none | ⟨least', asks', le⟩, flags⟩
      · rw [none] at asks
        cases asks
      · cases asks.symm.trans asks'
        exact ⟨le, flags⟩

/-! ### Which line -/

theorem beats_iff {other : DialogueLine} : line.beats relationship other = true ↔
    other.priority < line.priority ∨ line.priority = other.priority ∧
      line.distance relationship < other.distance relationship := by
  simp [beats]

theorem beats_eq_false_iff {other : DialogueLine} : line.beats relationship other = false ↔
    line.priority < other.priority ∨ line.priority = other.priority ∧
      other.distance relationship ≤ line.distance relationship := by
  rw [← Bool.not_eq_true, beats_iff]
  omega

theorem best?_eq_none_iff {lines : List DialogueLine} :
    best? relationship lines = none ↔ lines = [] := by
  cases lines with
  | nil => simp [best?]
  | cons line lines =>
    rw [best?]
    cases best? relationship lines with
    | none => simp
    | some other =>
      dsimp only
      split <;> simp

theorem beats_irrefl : line.beats relationship line = false := by
  rw [beats_eq_false_iff]
  omega

theorem beats_asymm {other : DialogueLine} (better : line.beats relationship other = true) :
    other.beats relationship line = false := by
  rw [beats_iff] at better
  rw [beats_eq_false_iff]
  omega

theorem beats_eq_false_trans {other third : DialogueLine}
    (h : line.beats relationship other = false) (h' : other.beats relationship third = false) :
    line.beats relationship third = false := by
  rw [beats_eq_false_iff] at *
  omega

/-- The best line is beaten by none, and beats all that come before it. -/
theorem best?_split {lines : List DialogueLine} (best : best? relationship lines = some line) :
    (∀ other ∈ lines, other.beats relationship line = false) ∧
      ∃ before after, lines = before ++ line :: after ∧
        ∀ other ∈ before, line.beats relationship other = true := by
  induction lines generalizing line with
  | nil => cases best
  | cons first rest ih =>
    rw [best?] at best
    cases next : best? relationship rest with
    | none =>
      rw [next] at best
      cases best
      rw [best?_eq_none_iff] at next
      subst next
      exact ⟨List.forall_mem_singleton.2 beats_irrefl, [], [], rfl, by simp⟩
    | some other =>
      rw [next] at best
      dsimp only at best
      obtain ⟨unbeaten, before, after, whole, ahead⟩ := ih next
      by_cases better : other.beats relationship first = true
      · rw [if_pos better] at best
        cases best
        refine ⟨List.forall_mem_cons.2 ⟨beats_asymm better, unbeaten⟩, first :: before, after, ?_,
          List.forall_mem_cons.2 ⟨better, ahead⟩⟩
        rw [whole, List.cons_append]
      · rw [if_neg better] at best
        cases best
        rw [Bool.not_eq_true] at better
        exact ⟨List.forall_mem_cons.2 ⟨beats_irrefl, fun third mem =>
          beats_eq_false_trans (unbeaten third mem) better⟩, [], rest, rfl, by simp⟩

/-- Of lines that were let through, the best one prevails. -/
theorem prevails_of_best? {lines : List DialogueLine} {opened : DialogueLine → Bool}
    (eligible : ∀ line ∈ lines, opened line = true ↔ line.Eligible state relationship)
    (best : best? relationship (lines.filter opened) = some line) :
    line.Prevails state relationship lines := by
  obtain ⟨unbeaten, before, after, whole, ahead⟩ := best?_split best
  have notBeaten : ∀ other ∈ lines, other.Eligible state relationship →
      other.priority < line.priority ∨ other.priority = line.priority ∧
        line.distance relationship ≤ other.distance relationship := by
    intro other mem may
    have letThrough := List.mem_filter.2 ⟨mem, (eligible other mem).2 may⟩
    exact beats_eq_false_iff.1 (unbeaten other letThrough)
  -- Between the lines that were let through there are others, which may not be said.
  obtain ⟨front, back, rfl, isBefore, isAfter⟩ := List.filter_eq_append_iff.1 whole
  obtain ⟨skipped, rest, rfl, unfit, fit, -⟩ := List.filter_eq_cons_iff.1 isAfter
  refine ⟨(eligible line (by simp)).1 fit, ?_, ?_, front ++ skipped, rest, by simp, ?_⟩
  · intro other mem may
    have := notBeaten other mem may
    omega
  · intro other mem may same
    have := notBeaten other mem may
    omega
  · rintro other mem may ⟨samePriority, sameDistance⟩
    have written : other ∈ front ++ (skipped ++ line :: rest) := by
      rw [← List.append_assoc]
      exact List.mem_append_left _ mem
    have letThrough := (eligible other written).2 may
    rcases List.mem_append.1 mem with early | between
    · have mem := List.mem_filter.2 ⟨early, letThrough⟩
      rw [isBefore] at mem
      have beaten := beats_iff.1 (ahead other mem)
      omega
    · exact unfit other between letThrough

end DialogueLine

namespace Character

variable {state : GameState} {relationship : Int} {character : Character} {line : DialogueLine}

/-- What a character says with a line. -/
def say (character : Character) (relationship : Int) (line : DialogueLine) : Interaction where
  kind := .talk
  success := true
  message := line.text
  character := character.id
  options := line.responses
  metadata := [("relationship", .int relationship)]

theorem talk_of_openLines {lines : List DialogueLine}
    (opened : character.openLines state relationship = .ok lines) :
    character.talk state relationship = .ok
      (match DialogueLine.best? relationship lines with
        | some line => character.say relationship line
        | none => character.refuse .talk " has nothing to say.") := by
  unfold talk
  rw [Result.bind_of_ok opened]
  cases DialogueLine.best? relationship lines <;> rfl

/-- The lines that may be said are let through, in the order in which they were written. -/
theorem openLines_of_measured (measured : ∀ line ∈ character.dialogue, line.Measured) :
    ∃ opened : DialogueLine → Bool,
      character.openLines state relationship = .ok (character.dialogue.filter opened) ∧
        ∀ line ∈ character.dialogue, opened line = true ↔ line.Eligible state relationship := by
  have each : ∀ line ∈ character.dialogue, ∃ opened,
      line.isOpen state relationship = .ok opened ∧
        (opened = true ↔ line.Eligible state relationship) :=
    fun line mem => DialogueLine.isOpen_of_measured (measured line mem)
  refine ⟨_, Result.filterM_of_ok fun line mem => (each line mem).imp fun _ => And.left, ?_⟩
  intro line mem
  obtain ⟨opened, answers, eligible⟩ := each line mem
  simp only [answers]
  exact eligible

/-- Talking fails for a line that asks for a relationship by what is no number, and for nothing
else. -/
theorem talk_fails_iff : (∃ fault, character.talk state relationship = .error fault) ↔
    ∃ line ∈ character.dialogue, line.minRelationship ≠ .null ∧
      line.minRelationship.number? = none := by
  constructor
  · rintro ⟨fault, failed⟩
    by_contra sound
    have each : ∀ line ∈ character.dialogue, ∃ opened,
        line.isOpen state relationship = .ok opened := by
      intro line mem
      by_cases none : line.minRelationship = .null
      · exact ⟨_, DialogueLine.isOpen_of_null none⟩
      · cases asks : line.minRelationship.number? with
        | none => exact absurd ⟨line, mem, none, asks⟩ sound
        | some least => exact ⟨_, DialogueLine.isOpen_of_number asks⟩
    rw [talk_of_openLines (Result.filterM_of_ok each)] at failed
    cases failed
  · rintro ⟨line, mem, asks, incomparable⟩
    obtain ⟨_, unopened⟩ : ∃ fault, line.isOpen state relationship = .error fault :=
      DialogueLine.isOpen_fails asks incomparable
    obtain ⟨fault, failed⟩ := Result.filterM_fails mem unopened
    refine ⟨fault, ?_⟩
    rw [talk, openLines, failed]
    rfl

/-- If no line asks for a relationship by what is no number, talk does not fail: it succeeds exactly
if some line may be said, and then the line that prevails is said. -/
theorem talk_says_best (character : Character) (relationship : Int) (state : GameState) :
    ((∃ fault, character.talk state relationship = .error fault) ↔
      ∃ line ∈ character.dialogue, line.minRelationship ≠ .null ∧
        line.minRelationship.number? = none) ∧
    ((∀ line ∈ character.dialogue, line.Measured) →
      ∃ interaction, character.talk state relationship = .ok interaction ∧
        (interaction.success = true ↔
          ∃ line ∈ character.dialogue, line.Eligible state relationship) ∧
        (interaction.success = true → ∃ line,
          line.Prevails state relationship character.dialogue ∧
            interaction = character.say relationship line)) := by
  refine ⟨talk_fails_iff, fun measured => ?_⟩
  obtain ⟨opened, lines, eligible⟩ := openLines_of_measured measured
  refine ⟨_, talk_of_openLines lines, ?_⟩
  cases best : DialogueLine.best? relationship (character.dialogue.filter opened) with
  | none =>
    rw [DialogueLine.best?_eq_none_iff, List.filter_eq_nil_iff] at best
    have refused : ¬ (character.refuse .talk " has nothing to say.").success = true :=
      Bool.false_ne_true
    refine ⟨⟨fun success => absurd success refused, ?_⟩, fun success => absurd success refused⟩
    rintro ⟨line, mem, may⟩
    exact absurd ((eligible line mem).2 may) (best line mem)
  | some line =>
    have prevails := DialogueLine.prevails_of_best? eligible best
    exact ⟨⟨fun _ => ⟨line, prevails.mem, prevails.eligible⟩, fun _ => rfl⟩,
      fun _ => ⟨line, prevails, rfl⟩⟩

/-! ### A guide who has something to say of the cellar -/

def guide : Character where
  id := "guide"
  name := "The guide"
  dialogue := [
    { text := "The tower is locked.", minRelationship := .int 50, priority := 9 },
    { text := "Good evening." },
    { text := "So you know the cellar.", minRelationship := .int 10
      requiredFlags := [("cellar", .bool true)], priority := 5, optimalRelationship := 20 },
    { text := "Mind the steps.", priority := 5, optimalRelationship := 40 },
    { text := "You were there once.", requiredFlags := [("cellar", .int 1)], priority := 7 }]

def afterCellar : GameState :=
  { GameState.starting 0 "game" "lantern" "garden" "Ann" {} with
    flags := .ofEntries [("cellar", .bool true)] }

/-- Two lines of one priority are as close to the relationship: the first of them is said. -/
theorem guide_speaks_of_cellar :
    (∀ line ∈ guide.dialogue, line.Measured) ∧
      ∃ interaction, guide.talk afterCellar 30 = .ok interaction ∧ interaction.success = true ∧
        interaction.message = "So you know the cellar." := by
  have measured : ∀ line ∈ guide.dialogue, line.Measured := by
    simp only [guide, List.forall_mem_cons]
    exact ⟨.inr ⟨.int 50, rfl, by decide⟩, .inl rfl, .inr ⟨.int 10, rfl, by decide⟩, .inl rfl,
      .inl rfl, by simp⟩
  obtain ⟨interaction, talked, succeeds, -⟩ := (talk_says_best guide 30 afterCellar).2 measured
  have spoken : (guide.talk afterCellar 30).map Interaction.message =
      .ok "So you know the cellar." := by rfl
  refine ⟨measured, interaction, talked, ?_, ?_⟩
  · exact succeeds.2 ⟨{ text := "Good evening." }, by simp [guide], .inl rfl, by simp⟩
  · rw [talked] at spoken
    exact Except.ok.inj spoken

/-- One line asks for a friend, where others ask for a number. -/
def host : Character where
  id := "guide"
  name := "The guide"
  dialogue := [{ text := "Good evening." },
    { text := "We are friends.", minRelationship := "friend" }]

/-- One line asks for what no relationship is less than, and none reaches. -/
def riddler : Character where
  id := "riddler"
  name := "The riddler"
  dialogue := [{ text := "Who knows?", minRelationship := .number (.float (0.0 / 0.0)) }]

/-- A line that asks for no number keeps those from being said that may be; one that asks for a
number that compares with none is said, although it may not be. -/
theorem unmeasured_lines_mislead :
    ((∃ line ∈ host.dialogue, line.Eligible afterCellar 30) ∧
      host.talk afterCellar 30 = .error
        (.mistyped (.operand "'<' not supported between instances of 'int' and 'str'"))) ∧
    (¬ ∃ line ∈ riddler.dialogue, line.Eligible afterCellar 30) ∧
      ∃ interaction, riddler.talk afterCellar 30 = .ok interaction ∧
        interaction.success = true := by
  have greets : ∃ line ∈ host.dialogue, line.Eligible afterCellar 30 :=
    ⟨{ text := "Good evening." }, by simp [host], .inl rfl, nofun⟩
  refine ⟨⟨greets, rfl⟩, ?_, _, rfl, rfl⟩
  rintro ⟨line, mem, may⟩
  obtain rfl := List.mem_singleton.1 mem
  rcases may.reached with none | ⟨least, isLeast, le⟩
  · cases none
  · obtain rfl := Option.some.inj isLeast
    have beyond : (Number.float (0.0 / 0.0)).le (.int 30) = false := by decide +kernel
    rw [beyond] at le
    cases le

end Character
end InteractiveFiction
