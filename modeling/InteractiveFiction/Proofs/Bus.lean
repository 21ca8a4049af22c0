import InteractiveFiction.Event.Bus

/-!
Who is called, whatever is done with a bus, and whatever subscribers do when they are called.

Every incident but a deed from outside has an owner: the emission or the call that it belongs to,
known by its place in the journal.  What is told later never belongs to an emission or a call that
is over, so that what holds of a part of a journal holds of the whole (`Lawful.append`).

* `BusJournal.standing`: the subscriptions that there are after what a journal tells.
* `BusJournal.callsOf`, `BusJournal.deedsOf`: the calls of an emission, and what a call did.
* `BusJournal.Lawful`: each emission calls those that stood when it began, and each call does what
  its subscriber is to do, up to its own failure.
* `Bus.Grows`: a bus that became another one by what was told meanwhile; `deliver_delivering` is by
  induction on the depth, `react_grows` and `calls_grow` on what is left to do.
* `BusJournal.Level`: how deep an emission is inside others; only at the greatest depth it is
  refused to emit from inside a call.
-/

set_option autoImplicit false

namespace InteractiveFiction

/-- What begins no emission. -/
def Reaction.IsQuiet : Reaction → Prop
  | .emit _ => False
  | _ => True

/-! ## Incidents -/

namespace Incident

/-- The emission or the call that an incident belongs to. -/
def owner : Incident → Option Nat
  | .did actor _ => actor
  | .refused call => some call
  | .called emission _ => some emission
  | .finished emission => some emission

def isDeed : Incident → Bool
  | .did _ _ => true
  | _ => false

/-- What an incident makes of the subscriptions: a new one comes last, and of several that are the
same the oldest is ended. -/
def change (subscriptions : List Subscription) : Incident → List Subscription
  | .did _ (.subscribe event serial) => subscriptions ++ [⟨event, serial⟩]
  | .did _ (.unsubscribe event serial) => subscriptions.erase ⟨event, serial⟩
  | .did _ .clear => []
  | _ => subscriptions

def call? (emission : Nat) : Incident → Option Subscription
  | .called emission' subscription => if emission' = emission then some subscription else none
  | _ => none

def deed? (call : Nat) : Incident → Option Reaction
  | .did actor reaction => if actor = some call then some reaction else none
  | _ => none

theorem call?_eq_none {id : Nat} {incident : Incident} (foreign : incident.owner ≠ some id) :
    incident.call? id = none := by
  cases incident with
  | called emission subscription => exact if_neg fun same => foreign (congrArg some same)
  | _ => rfl

theorem deed?_eq_none {id : Nat} {incident : Incident} (foreign : incident.owner ≠ some id) :
    incident.deed? id = none := by
  cases incident with
  | did actor reaction => exact if_neg foreign
  | _ => rfl

end Incident

abbrev BusJournal := List Incident

/-- Those of some subscriptions that an event of a name reaches, in order. -/
def reached (subscriptions : List Subscription) (event : String) : List Subscription :=
  (subscriptions.filter fun s => s.event == event) ++
    subscriptions.filter fun s => s.event == Bus.wildcard

namespace BusJournal

/-- The subscriptions that there are after what a journal tells, in the order in which they were
made. -/
def standing (journal : BusJournal) : List Subscription :=
  journal.foldl Incident.change []

/-- Whom an emission called, in order. -/
def callsOf (emission : Nat) (journal : BusJournal) : List Subscription :=
  journal.filterMap (Incident.call? emission)

/-- What a call did, in order. -/
def deedsOf (call : Nat) (journal : BusJournal) : List Reaction :=
  journal.filterMap (Incident.deed? call)

theorem standing_append_singleton (journal : BusJournal) (incident : Incident) :
    standing (journal ++ [incident]) = incident.change (standing journal) := by
  rw [standing, List.foldl_append]
  rfl

theorem callsOf_append (emission : Nat) (journal more : BusJournal) :
    callsOf emission (journal ++ more) = callsOf emission journal ++ callsOf emission more :=
  List.filterMap_append

theorem deedsOf_append (call : Nat) (journal more : BusJournal) :
    deedsOf call (journal ++ more) = deedsOf call journal ++ deedsOf call more :=
  List.filterMap_append

/-- Nothing of this belongs to an emission or call. -/
def Foreign (id : Nat) (journal : BusJournal) : Prop :=
  ∀ incident ∈ journal, incident.owner ≠ some id

theorem callsOf_of_foreign {id : Nat} {journal : BusJournal} (foreign : Foreign id journal) :
    callsOf id journal = [] :=
  List.filterMap_eq_nil_iff.2 fun incident mem => Incident.call?_eq_none (foreign incident mem)

theorem deedsOf_of_foreign {id : Nat} {journal : BusJournal} (foreign : Foreign id journal) :
    deedsOf id journal = [] :=
  List.filterMap_eq_nil_iff.2 fun incident mem => Incident.deed?_eq_none (foreign incident mem)

/-! ## Levels -/

/-- An emission began inside so many others, each of which had been begun by a call of the one
around it. -/
inductive Level (journal : BusJournal) : Nat → Nat → Prop
  | outside {emission : Nat} {event : Event}
      (begins : journal[emission]? = some (.did none (.emit event))) : Level journal emission 0
  | inside {emission call outer level : Nat} {event : Event} {subscription : Subscription}
      (begins : journal[emission]? = some (.did (some call) (.emit event)))
      (calls : journal[call]? = some (.called outer subscription))
      (around : Level journal outer level) : Level journal emission (level + 1)

/-- What is emitted now has such a level. -/
def EmitsAt (journal : BusJournal) (level : Nat) : Option Nat → Prop
  | none => level = 0
  | some call => ∃ outer subscription above, journal[call]? = some (.called outer subscription) ∧
      Level journal outer above ∧ level = above + 1

theorem getElem?_append {journal : BusJournal} {place : Nat} {incident : Incident}
    (there : journal[place]? = some incident) (more : BusJournal) :
    (journal ++ more)[place]? = some incident := by
  rw [List.getElem?_append_left (List.getElem?_eq_some_iff.1 there).1, there]

theorem Level.append {journal : BusJournal} {emission level : Nat}
    (h : Level journal emission level) (more : BusJournal) :
    Level (journal ++ more) emission level := by
  induction h with
  | outside begins => exact .outside (getElem?_append begins more)
  | inside begins calls _ ih =>
    exact .inside (getElem?_append begins more) (getElem?_append calls more) ih

theorem EmitsAt.append {journal : BusJournal} {actor : Option Nat} {level : Nat}
    (h : EmitsAt journal level actor) (more : BusJournal) :
    EmitsAt (journal ++ more) level actor := by
  cases actor with
  | none => exact h
  | some call =>
    obtain ⟨outer, subscription, above, calls, around, isLevel⟩ := h
    exact ⟨outer, subscription, above, getElem?_append calls more, around.append more, isLevel⟩

theorem EmitsAt.level {journal : BusJournal} {actor : Option Nat} {level : Nat}
    (h : EmitsAt journal level actor) (event : Event) :
    Level (journal ++ [.did actor (.emit event)]) journal.length level := by
  have begins : (journal ++ [.did actor (.emit event)])[journal.length]? =
      some (.did actor (.emit event)) := List.getElem?_concat_length
  cases actor with
  | none =>
    obtain rfl : level = 0 := h
    exact .outside begins
  | some call =>
    obtain ⟨outer, subscription, above, calls, around, rfl⟩ := h
    exact .inside begins (getElem?_append calls _) (around.append _)

/-- A call that has just begun emits one level deeper. -/
theorem Level.emitsAt {journal : BusJournal} {emission level : Nat}
    (h : Level journal emission level) (subscription : Subscription) :
    EmitsAt (journal ++ [.called emission subscription]) (level + 1) (some journal.length) :=
  ⟨emission, subscription, level, List.getElem?_concat_length, h.append _, rfl⟩

/-! ## Laws -/

/-- At the end of what is told an emission is over, and it has called these. -/
def Delivers (emission : Nat) (targets : List Subscription) (told : BusJournal) : Prop :=
  ∃ during, told = during ++ [.finished emission] ∧ callsOf emission during = targets

/-- What cannot be done by a call of an emission: to emit, where events are emitted from inside one
another as deep as they may be, and to subscribe somebody who was never subscribed before. -/
def Hindered (depth : Nat) (before : BusJournal) (emission : Nat) : Reaction → Prop
  | .emit _ => Level before emission depth
  | .subscribe _ serial => ∀ actor event, .did actor (.subscribe event serial) ∉ before
  | _ => False

/-- A call has done all that it was to do, or it has failed: by itself, or because what it was to do
next was refused, which happens only where it is hindered. -/
def Obeys (hindered : Reaction → Prop) (call : Nat) (reactions : List Reaction)
    (told : BusJournal) : Prop :=
  ∃ undone, reactions = deedsOf call told ++ undone ∧
    (undone = [] ∨ (deedsOf call told).getLast? = some .fail ∨
      .refused call ∈ told ∧ ∃ next rest, undone = next :: rest ∧ hindered next)

/-- Something holds of a first part of what is told, and nothing later belongs to the emission or
call that it is about. -/
def Settles (id : Nat) (P : BusJournal → Prop) (told : BusJournal) : Prop :=
  ∃ during rest, told = during ++ rest ∧ P during ∧ Foreign id rest

/-- What is told after an incident is as it should be, when the journal told some things before. -/
def Abides (depth : Nat) (subscribers : List Subscriber) (before : BusJournal) (incident : Incident)
    (later : BusJournal) : Prop :=
  match incident with
  | .did _ (.emit event) =>
    Settles before.length (Delivers before.length (reached (standing before) event.name)) later
  | .called emission subscription =>
    ∃ subscriber, subscribers[subscription.serial]? = some subscriber ∧
      Settles before.length (Obeys (Hindered depth before emission) before.length
        ((subscriber.conduct (before ++ [incident])).map (Reaction.resolve subscription))) later
  | _ => True

/-- After a journal, more is told in which everything is as it should be. -/
def Lawful (depth : Nat) (subscribers : List Subscriber) (journal told : BusJournal) : Prop :=
  ∀ front incident back, told = front ++ incident :: back →
    Abides depth subscribers (journal ++ front) incident back

variable {depth : Nat} {subscribers : List Subscriber} {journal told more : BusJournal}
  {incident : Incident}

theorem Obeys.append {hindered : Reaction → Prop} {call : Nat} {reactions : List Reaction}
    (h : Obeys hindered call reactions told) (foreign : Foreign call more) :
    Obeys hindered call reactions (told ++ more) := by
  obtain ⟨undone, does, stops⟩ := h
  have same : deedsOf call (told ++ more) = deedsOf call told := by
    rw [deedsOf_append, deedsOf_of_foreign foreign, List.append_nil]
  refine ⟨undone, same ▸ does, ?_⟩
  rw [same]
  exact stops.imp_right (.imp_right fun ⟨refused, next⟩ => ⟨List.mem_append_left _ refused, next⟩)

theorem Settles.of_all {id : Nat} {P : BusJournal → Prop} (h : P told) : Settles id P told :=
  ⟨told, [], (List.append_nil told).symm, h, fun _ mem => nomatch mem⟩

theorem Settles.append {id : Nat} {P : BusJournal → Prop} (h : Settles id P told)
    (foreign : Foreign id more) : Settles id P (told ++ more) := by
  obtain ⟨during, rest, rfl, holds, settled⟩ := h
  refine ⟨during, rest ++ more, List.append_assoc .., holds, fun incident mem => ?_⟩
  rcases List.mem_append.1 mem with mem | mem
  · exact settled incident mem
  · exact foreign incident mem

theorem Abides.append (h : Abides depth subscribers journal incident told)
    (foreign : Foreign journal.length more) :
    Abides depth subscribers journal incident (told ++ more) := by
  unfold Abides at h ⊢
  split
  · exact Settles.append h foreign
  · obtain ⟨subscriber, isSubscriber, settles⟩ := h
    exact ⟨subscriber, isSubscriber, settles.append foreign⟩
  · trivial

theorem Abides.mono {others : List Subscriber} (h : Abides depth subscribers journal incident told)
    (known : subscribers <+: others) : Abides depth others journal incident told := by
  unfold Abides at h ⊢
  split
  · exact h
  · obtain ⟨subscriber, isSubscriber, settles⟩ := h
    obtain ⟨newcomers, rfl⟩ := known
    refine ⟨subscriber, ?_, settles⟩
    rw [List.getElem?_append_left (List.getElem?_eq_some_iff.1 isSubscriber).1, isSubscriber]
  · trivial

theorem Lawful.nil : Lawful depth subscribers journal [] := by
  intro front incident back split
  exact absurd split (by simp)

theorem Lawful.cons (first : Abides depth subscribers journal incident told)
    (rest : Lawful depth subscribers (journal ++ [incident]) told) :
    Lawful depth subscribers journal (incident :: told) := by
  intro front other back split
  cases front with
  | nil =>
    cases split
    rw [List.append_nil]
    exact first
  | cons head front =>
    cases split
    have held := rest front other back rfl
    rwa [List.append_assoc] at held

/-- What is told later is none of the business of what was told first. -/
theorem Lawful.append (first : Lawful depth subscribers journal told)
    (second : Lawful depth subscribers (journal ++ told) more)
    (foreign : ∀ id, journal.length ≤ id → id < (journal ++ told).length → Foreign id more) :
    Lawful depth subscribers journal (told ++ more) := by
  intro front incident back split
  rcases List.append_eq_append_iff.1 split with ⟨later, rfl, rfl⟩ | ⟨later, rfl, same⟩
  · have held := second later incident back rfl
    rwa [List.append_assoc] at held
  · cases later with
    | nil =>
      have held := second [] incident back same.symm
      rwa [List.append_nil, List.append_nil] at held
    | cons head later =>
      cases same
      have held := first front incident later rfl
      refine held.append (foreign _ ?_ ?_)
      · rw [List.length_append]
        omega
      · simp only [List.length_append, List.length_cons]
        omega

theorem Lawful.mono {others : List Subscriber} (h : Lawful depth subscribers journal told)
    (known : subscribers <+: others) : Lawful depth others journal told :=
  fun front incident back split => (h front incident back split).mono known

end BusJournal

open BusJournal

/-! ## Buses that grow -/

namespace Bus

/-- The subscriptions are those that the journal tells of, of subscribers who are known. -/
structure Consistent (bus : Bus) : Prop where
  stands : bus.subscriptions = standing bus.journal
  known : ∀ subscription ∈ bus.subscriptions, subscription.serial < bus.subscribers.length
  introduced : ∀ actor event serial, .did actor (.subscribe event serial) ∈ bus.journal →
    serial < bus.subscribers.length

/-- The owner, if there is one, began earlier. -/
def Past (bus : Bus) (owner : Option Nat) : Prop :=
  ∀ id, owner = some id → id < bus.journal.length

theorem Past.some {bus : Bus} {id : Nat} (began : id < bus.journal.length) :
    bus.Past (some id) :=
  fun _ same => Option.some.inj same ▸ began

theorem length_lt_note (bus : Bus) (incident : Incident) :
    bus.journal.length < (bus.note incident).journal.length := by
  rw [note, List.length_append]
  exact Nat.lt_add_one _

/-- A bus became another one, while things were told that belong to an owner or to what began
meanwhile. -/
structure Grows (depth : Nat) (owner : Option Nat) (bus bus' : Bus) (told : BusJournal) :
    Prop where
  journal : bus'.journal = bus.journal ++ told
  subscribers : bus.subscribers <+: bus'.subscribers
  consistent : bus'.Consistent
  owned : ∀ incident ∈ told, ∀ id, incident.owner = some id →
    owner = some id ∨ bus.journal.length ≤ id
  lawful : Lawful depth bus'.subscribers bus.journal told

variable {depth : Nat} {owner : Option Nat} {bus bus' bus'' : Bus} {told more : BusJournal}

namespace Grows

theorem refl (consistent : bus.Consistent) : Grows depth owner bus bus [] where
  journal := (List.append_nil _).symm
  subscribers := List.prefix_refl _
  consistent := consistent
  owned := fun _ mem => nomatch mem
  lawful := .nil

theorem length_le (h : Grows depth owner bus bus' told) :
    bus.journal.length ≤ bus'.journal.length := by
  rw [h.journal, List.length_append]
  omega

theorem knows (h : Grows depth owner bus bus' told) {serial : Nat}
    (known : serial < bus.subscribers.length) : serial < bus'.subscribers.length :=
  Nat.lt_of_lt_of_le known h.subscribers.length_le

/-- What began before and is not the owner has no part in it. -/
theorem foreign (h : Grows depth owner bus bus' told) {id : Nat} (other : owner ≠ some id)
    (past : id < bus.journal.length) : Foreign id told := by
  intro incident mem isOwner
  rcases h.owned incident mem id isOwner with same | later
  · exact other same
  · omega

theorem trans (past : bus.Past owner) (h : Grows depth owner bus bus' told)
    (h' : Grows depth owner bus' bus'' more) : Grows depth owner bus bus'' (told ++ more) where
  journal := by rw [h'.journal, h.journal, List.append_assoc]
  subscribers := h.subscribers.trans h'.subscribers
  consistent := h'.consistent
  owned incident mem id isOwner := by
    rcases List.mem_append.1 mem with mem | mem
    · exact h.owned incident mem id isOwner
    · exact (h'.owned incident mem id isOwner).imp_right (Nat.le_trans h.length_le)
  lawful := by
    refine (h.lawful.mono h'.subscribers).append (h.journal ▸ h'.lawful) fun id since before => ?_
    refine h'.foreign (fun isOwner => ?_) (h.journal ▸ before)
    exact absurd (past id isOwner) (Nat.not_lt.2 since)

/-- Newcomers are known from then on, before anything is told. -/
theorem of_newcomers {newcomers : List Subscriber}
    (h : Grows depth owner { bus with subscribers := bus.subscribers ++ newcomers } bus' told) :
    Grows depth owner bus bus' told where
  journal := h.journal
  subscribers := (List.prefix_append _ _).trans h.subscribers
  consistent := h.consistent
  owned := h.owned
  lawful := h.lawful

/-- An incident of the owner, and what belongs to the emission or call that it begins. -/
theorem cons {bus₁ : Bus} {incident : Incident}
    (h : Grows depth (some bus.journal.length) bus₁ bus' told) (isOwner : incident.owner = owner)
    (journal : bus₁.journal = bus.journal ++ [incident])
    (subscribers : bus₁.subscribers = bus.subscribers)
    (abides : Abides depth bus'.subscribers bus.journal incident told) :
    Grows depth owner bus bus' (incident :: told) where
  journal := by rw [h.journal, journal, List.append_assoc, List.singleton_append]
  subscribers := subscribers ▸ h.subscribers
  consistent := h.consistent
  owned other mem id same := by
    rcases List.mem_cons.1 mem with rfl | mem
    · exact .inl (isOwner.symm.trans same)
    · refine .inr ?_
      rcases h.owned other mem id same with begun | later
      · exact Nat.le_of_eq (Option.some.inj begun)
      · rw [journal, List.length_append] at later
        omega
  lawful := .cons abides (journal ▸ h.lawful)

end Grows

/-! ### Steps -/

theorem Consistent.note (h : bus.Consistent) {incident : Incident}
    (noDeed : incident.isDeed = false) : (bus.note incident).Consistent where
  stands := by
    change bus.subscriptions = standing (bus.journal ++ [incident])
    rw [standing_append_singleton, ← h.stands]
    cases incident with
    | did actor reaction => cases noDeed
    | _ => rfl
  known := h.known
  introduced actor event serial mem := by
    rcases List.mem_append.1 mem with mem | mem
    · exact h.introduced actor event serial mem
    · rw [← List.mem_singleton.1 mem] at noDeed
      cases noDeed

/-- Only who is known is subscribed. -/
def Permits (bus : Bus) : Reaction → Prop
  | .subscribe _ serial => serial < bus.subscribers.length
  | _ => True

theorem knows_iff {serial : Nat} : bus.knows serial = true ↔ serial < bus.subscribers.length :=
  decide_eq_true_iff

theorem Consistent.carryOut (h : bus.Consistent) (actor : Option Nat) (reaction : Reaction)
    (permits : bus.Permits reaction) : (bus.carryOut actor reaction).Consistent where
  stands := by
    change reaction.change bus.subscriptions =
      standing (bus.journal ++ [.did actor reaction])
    rw [standing_append_singleton, ← h.stands]
    cases reaction <;> rfl
  introduced actor event serial mem := by
    rcases List.mem_append.1 mem with mem | mem
    · exact h.introduced actor event serial mem
    · cases List.mem_singleton.1 mem
      exact permits
  known subscription mem := by
    change subscription ∈ reaction.change bus.subscriptions at mem
    cases reaction with
    | subscribe event serial =>
      rcases List.mem_append.1 mem with mem | mem
      · exact h.known subscription mem
      · rw [List.mem_singleton.1 mem]
        exact permits
    | unsubscribe event serial => exact h.known subscription (List.mem_of_mem_erase mem)
    | clear => cases mem
    | leave | emit _ | fail => exact h.known subscription mem

/-- What begins no emission is told in one incident. -/
theorem carryOut_grows (consistent : bus.Consistent) (actor : Option Nat) (reaction : Reaction)
    (permits : bus.Permits reaction) (quiet : reaction.IsQuiet) :
    Grows depth actor bus (bus.carryOut actor reaction) [.did actor reaction] := by
  refine .cons (.refl (consistent.carryOut actor reaction permits)) rfl rfl rfl ?_
  cases reaction with
  | emit event => exact quiet.elim
  | _ => trivial

theorem refused_grows (consistent : bus.Consistent) (call : Nat) :
    Grows depth (some call) bus (bus.note (.refused call)) [.refused call] :=
  .cons (.refl (consistent.note rfl)) rfl rfl rfl trivial

theorem finished_grows (consistent : bus.Consistent) (emission : Nat) :
    Grows depth (some emission) bus (bus.note (.finished emission)) [.finished emission] :=
  .cons (.refl (consistent.note rfl)) rfl rfl rfl trivial

/-! ### Reactions -/

/-- A way to deliver events of a level, whoever emits them: all that is told after an emission began
belongs to it, or to what began later. -/
def Delivering (depth level : Nat) (emit : Option Nat → Bus → Event → Bus) : Prop :=
  ∀ (actor : Option Nat) (bus : Bus) (event : Event), bus.Consistent →
    EmitsAt bus.journal level actor →
    ∃ told, Grows depth actor bus (emit actor bus event) (.did actor (.emit event) :: told) ∧
      ∀ id, id < bus.journal.length → Foreign id told

section Reacting

variable {level : Nat} {emit? : Option (Option Nat → Bus → Event → Bus)}
  (delivering : ∀ emit, emit? = some emit → Delivering depth (level + 1) emit)
include delivering

theorem attempt_grows {call : Nat} {reaction : Reaction} {after : Bus}
    (consistent : bus.Consistent) (past : call < bus.journal.length)
    (inside : EmitsAt bus.journal (level + 1) (some call))
    (done : attempt emit? call bus reaction = some after) :
    ∃ told, Grows depth (some call) bus after told ∧ deedsOf call told = [reaction] := by
  have one (incident : Incident) (own : incident.deed? call = some reaction) :
      deedsOf call [incident] = [reaction] := by
    rw [deedsOf, List.filterMap_cons_some own]
    rfl
  have quietly (permits : bus.Permits reaction) (quiet : reaction.IsQuiet) :
      ∃ told, Grows depth (some call) bus (bus.carryOut (some call) reaction) told ∧
        deedsOf call told = [reaction] :=
    ⟨_, carryOut_grows consistent (some call) reaction permits quiet, one _ (if_pos rfl)⟩
  cases reaction with
  | emit event =>
    obtain ⟨emit, isEmit, rfl⟩ := Option.map_eq_some_iff.1 done
    obtain ⟨told, grows, foreign⟩ := delivering emit isEmit (some call) bus event consistent inside
    refine ⟨_, grows, ?_⟩
    rw [← List.singleton_append, deedsOf_append, deedsOf_of_foreign (foreign call past)]
    rw [one (.did (some call) (.emit event)) (if_pos rfl), List.append_nil]
  | subscribe event serial =>
    rw [attempt] at done
    split at done
    · rename_i known
      cases done
      exact quietly (knows_iff.1 known) trivial
    · cases done
  | leave | unsubscribe _ _ | clear | fail =>
    cases done
    exact quietly trivial trivial

omit delivering in
theorem hindered_of_attempt {call emission : Nat} {reaction : Reaction} {before told : BusJournal}
    (consistent : bus.Consistent) (journal : bus.journal = before ++ told)
    (deepest : emit? = none → Level before emission depth)
    (refused : attempt emit? call bus reaction = none) :
    Hindered depth before emission reaction := by
  cases reaction with
  | emit event => exact deepest (Option.map_eq_none_iff.1 refused)
  | subscribe event serial =>
    rw [attempt] at refused
    split at refused
    · cases refused
    · rename_i unknown
      intro actor other mem
      refine unknown (knows_iff.2 (consistent.introduced actor other serial ?_))
      rw [journal]
      exact List.mem_append_left _ mem
  | leave | unsubscribe _ _ | clear | fail => cases refused

/-- A call does one thing after another, until all is done or it fails. -/
theorem react_grows {call emission : Nat} {before : BusJournal}
    (deepest : emit? = none → Level before emission depth) (reactions : List Reaction)
    {bus : Bus} {since : BusJournal} (journal : bus.journal = before ++ since)
    (consistent : bus.Consistent) (past : call < bus.journal.length)
    (inside : EmitsAt bus.journal (level + 1) (some call)) :
    ∃ told, Grows depth (some call) bus (react emit? call bus reactions) told ∧
      Obeys (Hindered depth before emission) call reactions told := by
  induction reactions generalizing bus since with
  | nil => exact ⟨[], .refl consistent, [], rfl, .inl rfl⟩
  | cons reaction rest ih =>
    unfold react
    cases done : attempt emit? call bus reaction with
    | none =>
      have hindered := hindered_of_attempt consistent journal deepest done
      exact ⟨_, refused_grows consistent call, _, rfl,
        .inr (.inr ⟨List.mem_singleton.2 rfl, reaction, rest, rfl, hindered⟩)⟩
    | some after =>
      obtain ⟨first, grows, own⟩ := attempt_grows delivering consistent past inside done
      dsimp only
      split
      · rename_i failed
        refine ⟨first, grows, rest, by rw [own]; rfl, .inr (.inl ?_)⟩
        rw [own, failed]
        rfl
      · have further : after.journal = before ++ (since ++ first) := by
          rw [grows.journal, journal, List.append_assoc]
        obtain ⟨others, grows', undone, does, stops⟩ :=
          ih further grows.consistent (Nat.lt_of_lt_of_le past grows.length_le)
            (grows.journal ▸ inside.append first)
        refine ⟨first ++ others, grows.trans (.some past) grows', undone, ?_, ?_⟩
        · rw [deedsOf_append, own, does]
          rfl
        · rw [deedsOf_append, own]
          rcases stops with done | failed | ⟨refused, next⟩
          · exact .inl done
          · exact .inr (.inl (by simp [List.getLast?_cons, failed]))
          · exact .inr (.inr ⟨List.mem_append_right _ refused, next⟩)

/-! ### Deliveries -/

variable (deepest : emit? = none → level = depth)
include deepest

theorem call_grows {emission : Nat} {subscription : Subscription} (consistent : bus.Consistent)
    (past : emission < bus.journal.length) (around : Level bus.journal emission level)
    (known : subscription.serial < bus.subscribers.length) :
    ∃ told, Grows depth (some emission) bus (call emit? emission bus subscription) told ∧
      callsOf emission told = [subscription] := by
  let called := bus.note (.called emission subscription)
  let subscriber := bus.subscribers[subscription.serial]
  let reactions := (subscriber.conduct called.journal).map (Reaction.resolve subscription)
  have isSubscriber : bus.subscribers[subscription.serial]? = some subscriber :=
    List.getElem?_eq_getElem known
  have calls : call emit? emission bus subscription =
      react emit? bus.journal.length called reactions := by
    rw [call, isSubscriber]
  have begun : bus.journal.length < called.journal.length := bus.length_lt_note _
  obtain ⟨told, grows, obeys⟩ :=
    react_grows delivering (fun none => deepest none ▸ around) reactions rfl
      (consistent.note rfl) begun (around.emitsAt subscription)
  rw [calls]
  refine ⟨_, grows.cons rfl rfl rfl ⟨subscriber, ?_, .of_all obeys⟩, ?_⟩
  · obtain ⟨newcomers, same⟩ := grows.subscribers
    rw [← same]
    exact (List.getElem?_append_left known).trans isSubscriber
  · have foreign : Foreign emission told :=
      grows.foreign (fun same => Nat.ne_of_gt past (Option.some.inj same))
        (Nat.lt_trans past begun)
    rw [← List.singleton_append, callsOf_append, callsOf_of_foreign foreign, List.append_nil]
    exact List.filterMap_cons_some (if_pos rfl)

/-- Those who are to be called are called one after another. -/
theorem calls_grow {emission : Nat} (targets : List Subscription) {bus : Bus}
    (consistent : bus.Consistent) (past : emission < bus.journal.length)
    (around : Level bus.journal emission level)
    (known : ∀ subscription ∈ targets, subscription.serial < bus.subscribers.length) :
    ∃ told, Grows depth (some emission) bus (targets.foldl (call emit? emission) bus) told ∧
      callsOf emission told = targets := by
  induction targets generalizing bus with
  | nil => exact ⟨[], .refl consistent, rfl⟩
  | cons target targets ih =>
    obtain ⟨first, grows, own⟩ :=
      call_grows delivering deepest consistent past around (known target (by simp))
    obtain ⟨others, grows', rest⟩ := ih grows.consistent (Nat.lt_of_lt_of_le past grows.length_le)
      (grows.journal ▸ around.append first)
      fun subscription mem => grows.knows (known subscription (List.mem_cons_of_mem target mem))
    refine ⟨first ++ others, grows.trans (.some past) grows', ?_⟩
    rw [callsOf_append, own, rest]
    rfl

theorem deliverWith_delivering : Delivering depth level (deliverWith emit?) := by
  intro actor bus event consistent emits
  let began := bus.carryOut actor (.emit event)
  have later : bus.journal.length < began.journal.length :=
    bus.length_lt_note (.did actor (.emit event))
  have known : ∀ subscription ∈ bus.targets event.name,
      subscription.serial < began.subscribers.length := by
    intro subscription mem
    rcases List.mem_append.1 mem with mem | mem
    · exact consistent.known subscription (List.mem_filter.1 mem).1
    · exact consistent.known subscription (List.mem_filter.1 mem).1
  obtain ⟨during, grows, calls⟩ := calls_grow delivering deepest (bus.targets event.name)
    (consistent.carryOut actor (.emit event) trivial) later (emits.level event) known
  have ends := grows.trans (.some later)
    (finished_grows grows.consistent bus.journal.length)
  have targets : bus.targets event.name = reached (standing bus.journal) event.name := by
    rw [← consistent.stands]
    rfl
  have delivers : Delivers bus.journal.length (reached (standing bus.journal) event.name)
      (during ++ [.finished bus.journal.length]) := ⟨during, rfl, calls.trans targets⟩
  refine ⟨_, ends.cons rfl rfl rfl (Settles.of_all delivers), fun id before => ?_⟩
  exact ends.foreign (fun same => Nat.ne_of_gt before (Option.some.inj same))
    (Nat.lt_trans before later)

end Reacting

/-- What is left of the depth is for the levels further inside. -/
theorem deliver_delivering {level left : Nat} (whole : level + left = depth) :
    Delivering depth level (deliver left) := by
  induction left generalizing level with
  | zero => exact deliverWith_delivering nofun fun _ => whole
  | succ left ih =>
    refine deliverWith_delivering (fun emit isEmit => ?_) nofun
    cases isEmit
    exact ih (by omega)

end Bus

/-! ## Sequences of calls -/

/-- What is done with a bus from outside. -/
inductive BusCall where
  | subscribe (event : String) (subscriber : Subscriber)
  | resubscribe (event : String) (serial : Nat)
  | unsubscribe (event : String) (serial : Nat)
  | clear
  | emit (event : Event)

namespace BusCall

/-- The bus after a call, with events emitted from inside one another at most so deep. -/
def next (depth : Nat) (bus : Bus) : BusCall → Bus
  | subscribe event subscriber => (bus.subscribe event subscriber).1
  | resubscribe event serial => bus.resubscribe event serial
  | unsubscribe event serial => (bus.unsubscribe event serial).1
  | clear => bus.clear
  | emit event => Bus.deliver depth none bus event

def along (depth : Nat) (bus : Bus) (calls : List BusCall) : Bus :=
  calls.foldl (next depth) bus

open Bus

theorem next_grows (depth : Nat) {bus : Bus} (consistent : bus.Consistent) (call : BusCall) :
    ∃ told, Grows depth none bus (call.next depth bus) told := by
  cases call with
  | subscribe event subscriber =>
    have welcome : Consistent { bus with subscribers := bus.subscribers ++ [subscriber] } := by
      refine ⟨consistent.stands, fun subscription mem => ?_, fun actor other serial mem => ?_⟩
      · rw [List.length_append]
        exact Nat.lt_add_right _ (consistent.known subscription mem)
      · rw [List.length_append]
        exact Nat.lt_add_right _ (consistent.introduced actor other serial mem)
    have known : bus.subscribers.length < (bus.subscribers ++ [subscriber]).length := by
      rw [List.length_append]
      exact Nat.lt_add_one _
    let reaction : Reaction := .subscribe event bus.subscribers.length
    exact ⟨_, .of_newcomers (carryOut_grows welcome none reaction known trivial)⟩
  | resubscribe event serial =>
    unfold next Bus.resubscribe
    dsimp only
    split
    · rename_i known
      have permits : bus.Permits (.subscribe event serial) := knows_iff.1 known
      exact ⟨_, carryOut_grows consistent none (.subscribe event serial) permits trivial⟩
    · exact ⟨[], .refl consistent⟩
  | unsubscribe event serial =>
    exact ⟨_, carryOut_grows consistent none (.unsubscribe event serial) trivial trivial⟩
  | clear => exact ⟨_, carryOut_grows consistent none .clear trivial trivial⟩
  | emit event =>
    obtain ⟨told, grows, -⟩ := deliver_delivering (Nat.zero_add depth) none bus event consistent rfl
    exact ⟨_, grows⟩

theorem along_grows (depth : Nat) {bus : Bus} (consistent : bus.Consistent)
    (calls : List BusCall) : ∃ told, Grows depth none bus (along depth bus calls) told := by
  induction calls generalizing bus with
  | nil => exact ⟨[], .refl consistent⟩
  | cons call calls ih =>
    obtain ⟨first, grows⟩ := next_grows depth consistent call
    obtain ⟨others, grows'⟩ := ih grows.consistent
    exact ⟨_, grows.trans nofun grows'⟩

theorem consistent_new : Consistent {} where
  stands := rfl
  known _ mem := nomatch mem
  introduced _ _ _ mem := nomatch mem

theorem abides_along {depth : Nat} {calls : List BusCall} {before later : BusJournal}
    {incident : Incident} (split : (along depth {} calls).journal = before ++ incident :: later) :
    Abides depth (along depth {} calls).subscribers before incident later := by
  obtain ⟨told, grows⟩ := along_grows depth consistent_new calls
  exact grows.lawful before incident later (grows.journal.symm.trans split)

theorem reached_perm {event : String} (named : event ≠ wildcard)
    (subscriptions : List Subscription) :
    (reached subscriptions event).Perm
      (subscriptions.filter fun s => s.event == event || s.event == wildcard) := by
  have parted := List.filter_append_perm (fun s : Subscription => s.event == event)
    (subscriptions.filter fun s => s.event == event || s.event == wildcard)
  rw [List.filter_filter, List.filter_filter] at parted
  have own (s : Subscription) :
      (s.event == event && (s.event == event || s.event == wildcard)) = (s.event == event) := by
    cases s.event == event <;> simp
  have other (s : Subscription) :
      (!(s.event == event) && (s.event == event || s.event == wildcard)) =
        (s.event == wildcard) := by
    by_cases same : s.event = event
    · simp [same, named]
    · rw [beq_eq_false_iff_ne.2 same]
      rfl
  rwa [List.filter_congr fun s _ => own s, List.filter_congr fun s _ => other s] at parted

def level : Event where
  name := "level"

/-- One who listens to everything, and three who listen to levels, the first of them twice: one who
fails, one who puts out the next and emits something else, and one who is put out. -/
def crowd : List BusCall := [
  .subscribe wildcard (.mk "log" []),
  .subscribe "level" (.mk "broken" [.fail]),
  .subscribe "level" (.mk "bouncer" [.unsubscribe "level" 3, .emit ⟨"ping", []⟩, .clear]),
  .subscribe "level" (.mk "guest" []),
  .resubscribe "level" 1]

end BusCall

end InteractiveFiction
