import SharedState.Proofs.Bus.Consistency
import SharedState.Proofs.Distinct
import SharedState.Proofs.Handles

/-!
# The roster of a bus

What a bus keeps under its channels, and the number of subscribers that it
keeps apart from them, follow from its history. The roster is taken from the
history alone: whoever is given a ticket comes on it, with the channels asked
for, and whoever is unsubscribed or dropped goes off it. A channel then holds
the tickets of those on the roster who asked for it, and the counters count
the roster, for as long as the bus is there.
-/

namespace SharedState

namespace Mailbox

theorem length_close_le (mailbox : Mailbox) :
    mailbox.close.messages.length ≤ mailbox.messages.length := by
  unfold close
  split <;> exact Nat.le_refl _

theorem length_take?_le (mailbox : Mailbox) :
    mailbox.take?.2.messages.length ≤ mailbox.messages.length := by
  unfold take?
  split
  · exact Nat.le_refl _
  · next waiting => simp [waiting]

theorem length_poll_le (mailbox : Mailbox) :
    mailbox.poll.2.messages.length ≤ mailbox.messages.length := by
  unfold poll
  split
  · next waiting => simp [waiting]
  · split <;> exact Nat.le_refl _

end Mailbox

namespace Subscription

/-- The channels of a subscription, unless it was ended by its subscriber. -/
def live? (subscription : Subscription) : Option (List String) :=
  if subscription.unsubscribed then none else some subscription.channels

/-- Whether what is in the mailbox is no more than some room. -/
def Fits (room : Nat) (subscription : Subscription) : Prop :=
  subscription.mailbox.messages.length ≤ room

theorem fits_after {room : Nat} {ticket : Ticket} {event : Bus.Event}
    {subscription left : Subscription} (fits : subscription.Fits room)
    (sized : subscription.mailbox.isOpen = true → subscription.mailbox.capacity = room)
    (remains : subscription.after ticket event = some left) : left.Fits room := by
  cases event with
  | subscribe channels =>
      cases remains
      exact fits
  | publish message =>
      simp only [after] at remains
      split at remains <;> cases remains
      · cases isOpen : subscription.mailbox.isOpen with
        | true =>
            have within : subscription.mailbox.messages.length ≤ subscription.mailbox.capacity :=
              sized isOpen ▸ fits
            have offered := Mailbox.length_offer_le message within
            rw [Mailbox.capacity_offer, sized isOpen] at offered
            exact offered
        | false =>
            rw [Mailbox.offer_of_closed isOpen]
            exact fits
      · exact fits
  | read reader command =>
      simp only [after] at remains
      split at remains
      · cases command <;> cases remains
        · exact Nat.le_trans (Mailbox.length_take?_le _) fits
        · exact Nat.le_trans (Mailbox.length_poll_le _) fits
        · exact fits
        · exact Nat.le_trans (Mailbox.length_close_le _) fits
        · exact fits
      · cases remains
        exact fits
  | shutDown =>
      cases remains
      exact Nat.le_trans (Mailbox.length_close_le _) fits

end Subscription

namespace Bus

/-- The ticket whose subscription a step ends. -/
def Event.ended? : Event → Option Ticket
  | .read ticket .unsubscribe => some ticket
  | .read ticket .drop => some ticket
  | _ => none

/-- The ticket that a step gives out. -/
def Result.issued? : Result → Option Ticket
  | .subscribed ticket => some ticket
  | _ => none

/-- Those who were given a ticket and were not unsubscribed or dropped since,
with the channels that they asked for. -/
abbrev Roster := List (Ticket × List String)

/-- The roster after a step. -/
def Roster.note (roster : Roster) : Event → Result → Roster
  | .subscribe channels, .subscribed ticket => roster ++ [(ticket, channels)]
  | event, _ => roster.filter fun entry => some entry.1 ≠ event.ended?

/-- The roster after a run. -/
def Roster.after (roster : Roster) : List Event → List Result → Roster
  | event :: events, result :: results => after (roster.note event result) events results
  | _, _ => roster

/-- Whether somebody on the roster asked for any channel. -/
def Roster.counts (entry : Ticket × List String) : Bool := !entry.2.isEmpty

/-- The channels of a subscription that was not ended by its subscriber. -/
def live? (bus : Bus) (ticket : Ticket) : Option (List String) :=
  (bus.subscriptions.get? ticket).bind Subscription.live?

variable {bus : Bus} {event : Event} {ticket : Ticket} {channels : List String} {roster : Roster}

/-! ## What a step does to the registry -/

theorem live?_step_of_quiet (consistent : bus.Consistent)
    (quiet : ∀ channels, event ≠ .subscribe channels) (ticket : Ticket) :
    (step bus event).2.live? ticket =
      if event.ended? = some ticket then none else bus.live? ticket := by
  rw [live?, get?_step_of_quiet consistent quiet, live?]
  cases found : bus.subscriptions.get? ticket with
  | none => simp
  | some subscription =>
      simp only [Option.bind_some]
      cases event with
      | subscribe channels => exact absurd rfl (quiet channels)
      | publish message =>
          simp only [Subscription.after]
          split <;> rfl
      | read reader command =>
          simp only [Subscription.after]
          by_cases mine : reader = ticket
          · cases command <;>
              simp [mine, Subscription.obey, Event.ended?, Subscription.live?]
          · cases command <;> simp [mine, Event.ended?]
      | shutDown => rfl

theorem unsubscribe_of_live (running : bus.running = true)
    (live : bus.live? ticket = some channels) :
    (bus.unsubscribe ticket).running = true ∧
      (bus.unsubscribe ticket).channels = leave ticket channels bus.channels ∧
        (bus.unsubscribe ticket).subscribers =
          bus.subscribers - if channels.isEmpty then 0 else 1 := by
  obtain ⟨subscription, found, stands⟩ := Option.bind_eq_some_iff.mp live
  cases ended : subscription.unsubscribed with
  | true => simp [Subscription.live?, ended] at stands
  | false =>
      obtain rfl : subscription.channels = channels := by
        simpa [Subscription.live?, ended] using stands
      cases asked : subscription.channels with
      | nil => simp [unsubscribe, found, ended, asked, running, leave]
      | cons first rest => simp [unsubscribe, found, ended, asked, running]

/-- Ending a subscription that was ended before has no effect. -/
theorem unsubscribe_of_not_live (ended : bus.live? ticket = none) :
    bus.unsubscribe ticket = bus := by
  unfold unsubscribe
  cases found : bus.subscriptions.get? ticket with
  | none => rfl
  | some subscription =>
      have unsubscribed : subscription.unsubscribed = true := by
        simpa [live?, found, Subscription.live?] using ended
      simp [unsubscribed]

theorem ended?_eq_some_iff :
    event.ended? = some ticket ↔
      event = .read ticket .unsubscribe ∨ event = .read ticket .drop := by
  cases event with
  | read reader command => cases command <;> simp [Event.ended?]
  | _ => simp [Event.ended?]

@[simp]
theorem running_withMailbox (bus : Bus) (ticket : Ticket) (mailbox : Mailbox) :
    (bus.withMailbox ticket mailbox).running = bus.running := by
  unfold withMailbox
  split <;> rfl

@[simp]
theorem subscribers_withMailbox (bus : Bus) (ticket : Ticket) (mailbox : Mailbox) :
    (bus.withMailbox ticket mailbox).subscribers = bus.subscribers := by
  unfold withMailbox
  split <;> rfl

/-- A step that makes no subscription takes the ticket that it ends off its
channels and counts one subscriber less, if that ticket was live, and leaves
the registry alone otherwise. -/
theorem registry_step_of_quiet (running : bus.running = true)
    (quiet : ∀ channels, event ≠ .subscribe channels) (alive : event ≠ .shutDown) :
    (step bus event).2.running = true ∧
      ((∃ ticket channels, event.ended? = some ticket ∧ bus.live? ticket = some channels ∧
          (step bus event).2.channels = leave ticket channels bus.channels ∧
            (step bus event).2.subscribers =
              bus.subscribers - if channels.isEmpty then 0 else 1) ∨
        (∀ ticket, event.ended? = some ticket → bus.live? ticket = none) ∧
          (step bus event).2.channels = bus.channels ∧
            (step bus event).2.subscribers = bus.subscribers) := by
  cases ended : event.ended? with
  | some ticket =>
      -- Dropping goes by way of unsubscribing, which is where the registry is touched.
      have registry : (step bus event).2.running = (bus.unsubscribe ticket).running ∧
          (step bus event).2.channels = (bus.unsubscribe ticket).channels ∧
            (step bus event).2.subscribers = (bus.unsubscribe ticket).subscribers := by
        rcases ended?_eq_some_iff.mp ended with rfl | rfl <;> exact ⟨rfl, rfl, rfl⟩
      obtain ⟨stays, kept, counted⟩ := registry
      cases live : bus.live? ticket with
      | none =>
          rw [unsubscribe_of_not_live live] at stays kept counted
          refine ⟨stays.trans running, Or.inr ⟨?_, kept, counted⟩⟩
          rintro other ⟨⟩
          exact live
      | some channels =>
          obtain ⟨runs, left, fewer⟩ := unsubscribe_of_live running live
          exact ⟨stays.trans runs,
            Or.inl ⟨ticket, channels, rfl, live, kept.trans left, counted.trans fewer⟩⟩
  | none =>
      have nobody : ∀ ticket, none = some ticket → bus.live? ticket = none := fun _ => nofun
      cases event with
      | subscribe channels => exact absurd rfl (quiet channels)
      | publish message => exact ⟨running, Or.inr ⟨nobody, rfl, rfl⟩⟩
      | shutDown => exact absurd rfl alive
      | read reader command =>
          cases command with
          | take => simp [step, read, take?, running]
          | poll => simp [step, read, poll, running]
          | isWoken => exact ⟨running, Or.inr ⟨nobody, rfl, rfl⟩⟩
          | isUnsubscribed => exact ⟨running, Or.inr ⟨nobody, rfl, rfl⟩⟩
          | unsubscribe => cases ended
          | drop => cases ended

theorem live?_keep (bus : Bus) (subscription : Subscription) (ticket : Ticket) :
    (bus.keep subscription).live? ticket =
      if ticket = bus.nextTicket then subscription.live? else bus.live? ticket := by
  rw [live?, keep, Table.get?_put]
  split <;> rfl

/-- A subscription that is made is live. It joins its channels, and is counted
if there are any. -/
theorem registry_subscribe (bus : Bus) (channels : List String) :
    step bus (.subscribe channels) = (.refused, bus) ∨
      (step bus (.subscribe channels)).1 = .subscribed bus.nextTicket ∧
        (step bus (.subscribe channels)).2.running = bus.running ∧
          (step bus (.subscribe channels)).2.channels =
              join bus.nextTicket channels bus.channels ∧
            (step bus (.subscribe channels)).2.subscribers =
                bus.subscribers + (if channels.isEmpty then 0 else 1) ∧
              ∀ ticket, (step bus (.subscribe channels)).2.live? ticket =
                if ticket = bus.nextTicket then some channels else bus.live? ticket := by
  cases channels with
  | nil => exact Or.inr ⟨rfl, rfl, rfl, rfl, live?_keep bus _⟩
  | cons first rest =>
      by_cases large : greatestCapacity < bus.capacity
      · exact Or.inl (by simp [step, subscribe, large])
      · have made : step bus (.subscribe (first :: rest)) =
            (.subscribed bus.nextTicket,
              { bus.keep ⟨first :: rest, Mailbox.create bus.capacity, false⟩ with
                channels := join bus.nextTicket (first :: rest) bus.channels
                subscribers := bus.subscribers + 1 }) := by
          simp [step, subscribe, large]
        rw [made]
        exact Or.inr ⟨rfl, rfl, rfl, rfl, live?_keep bus _⟩

/-! ## The registry is exact -/

/-- What holds of a bus while it is there: the tickets on a channel are those
of the live subscriptions that asked for it, and no channel is kept for
nobody. -/
structure Exact (bus : Bus) : Prop where
  consistent : bus.Consistent
  running : bus.running = true
  occupied : Occupied bus.channels
  registered_iff : ∀ {ticket channel}, ticket ∈ bus.registered channel ↔
    ∃ channels, bus.live? ticket = some channels ∧ channel ∈ channels
  fits : ∀ {ticket subscription}, bus.subscriptions.get? ticket = some subscription →
    subscription.Fits bus.capacity

/-- A roster lists the live subscriptions of a bus, each of them once, and the
bus counts those that asked for any channel. -/
structure Lists (roster : Roster) (bus : Bus) : Prop where
  mem_iff : ∀ {ticket channels}, (ticket, channels) ∈ roster ↔ bus.live? ticket = some channels
  distinct : (roster.map Prod.fst).Nodup
  counted : bus.subscribers = roster.countP Roster.counts

theorem exact_create (capacity : Nat) : (create capacity).Exact where
  consistent := consistent_create capacity
  running := rfl
  occupied _ _ found := by cases found
  registered_iff {ticket channel} := by
    constructor
    · intro member
      cases member
    · rintro ⟨channels, live, -⟩
      cases live
  fits found := by cases found

theorem lists_create (capacity : Nat) : Lists [] (create capacity) where
  mem_iff {ticket channels} := by
    constructor
    · intro member
      cases member
    · intro live
      cases live
  distinct := List.nodup_nil
  counted := rfl

theorem Exact.unknown (exact : bus.Exact) {ticket : Ticket} (unissued : bus.nextTicket ≤ ticket) :
    bus.live? ticket = none := by
  cases found : bus.subscriptions.get? ticket with
  | none => rw [live?, found, Option.bind_none]
  | some subscription =>
      exact absurd (exact.consistent.issued found) (Nat.not_lt_of_le unissued)

/-- The mailboxes after a step hold no more than fits. -/
theorem Exact.fits_step (exact : bus.Exact) (event : Event) {left : Subscription}
    (found : (step bus event).2.subscriptions.get? ticket = some left) :
    left.Fits (step bus event).2.capacity := by
  rw [capacity_step]
  rcases subscribe_or_quiet event with ⟨channels, rfl⟩ | quiet
  · rcases step_subscribe bus channels with ⟨-, -, refused⟩ | ⟨next, made, -, -, -, kept⟩
    · rw [refused] at found
      exact exact.fits found
    · rw [made, kept, Table.get?_put] at found
      split at found
      · cases found
        split <;> exact Nat.zero_le _
      · exact exact.fits found
  · rw [get?_step_of_quiet exact.consistent quiet] at found
    obtain ⟨subscription, before, remains⟩ := Option.bind_eq_some_iff.mp found
    exact Subscription.fits_after (exact.fits before) (exact.consistent.sized before) remains

theorem exact_step (exact : bus.Exact) (alive : event ≠ .shutDown) :
    (step bus event).2.Exact := by
  rcases subscribe_or_quiet event with ⟨channels, rfl⟩ | quiet
  · rcases registry_subscribe bus channels with refused | ⟨-, running, joined, -, live⟩
    · rw [refused]
      exact exact
    · constructor
      · exact consistent_step exact.consistent _
      · exact running.trans exact.running
      · rw [joined]
        exact occupied_join _ channels exact.occupied
      · intro ticket channel
        have before : ticket ∈ ticketsOn bus.channels channel ↔ _ := exact.registered_iff
        rw [registered, joined, live]
        refine (mem_ticketsOn_join channels bus.channels).trans ?_
        by_cases new : ticket = bus.nextTicket
        · subst new
          simp [before, exact.unknown (Nat.le_refl _)]
        · simp [new, before]
      · exact exact.fits_step _
  · obtain ⟨running, changes⟩ := registry_step_of_quiet exact.running quiet alive
    have live := live?_step_of_quiet exact.consistent quiet
    constructor
    · exact consistent_step exact.consistent event
    · exact running
    · rcases changes with ⟨ticket, channels, -, -, left, -⟩ | ⟨-, same, -⟩
      · rw [left]
        exact occupied_leave ticket channels exact.occupied
      · rw [same]
        exact exact.occupied
    · intro ticket channel
      have before : ticket ∈ ticketsOn bus.channels channel ↔ _ := exact.registered_iff
      rcases changes with ⟨leaver, channels, ended, stood, left, -⟩ | ⟨nobody, same, -⟩
      · rw [registered, left, live, ended]
        refine (mem_ticketsOn_leave channels bus.channels).trans ?_
        by_cases mine : ticket = leaver
        · subst mine
          simp [before, stood]
        · simp [mine, before, Ne.symm mine]
      · rw [registered, same, live]
        refine before.trans ?_
        by_cases ended : event.ended? = some ticket
        · simp [ended, nobody ticket ended]
        · simp [ended]
    · exact exact.fits_step event

theorem note_of_quiet (quiet : ∀ channels, event ≠ .subscribe channels) (roster : Roster)
    (result : Result) :
    roster.note event result = roster.filter fun entry => some entry.1 ≠ event.ended? := by
  cases event with
  | subscribe channels => exact absurd rfl (quiet channels)
  | _ => rfl

theorem note_refused (roster : Roster) (channels : List String) :
    roster.note (.subscribe channels) .refused = roster :=
  List.filter_eq_self.mpr fun _ _ => rfl

/-- Whoever is newly listed comes last and was not listed before. -/
theorem Lists.concat (lists : Lists roster bus) {next : Bus}
    (unknown : bus.live? bus.nextTicket = none)
    (live : ∀ ticket, next.live? ticket =
      if ticket = bus.nextTicket then some channels else bus.live? ticket)
    (counted : next.subscribers = bus.subscribers + if channels.isEmpty then 0 else 1) :
    Lists (roster ++ [(bus.nextTicket, channels)]) next where
  mem_iff {ticket others} := by
    rw [List.mem_append, List.mem_singleton, lists.mem_iff, live]
    by_cases new : ticket = bus.nextTicket
    · simp [new, unknown, eq_comm]
    · simp [new]
  distinct := by
    rw [List.map_append, List.map_singleton, ← List.concat_eq_append]
    refine (List.nodup_concat _ _).mpr ⟨?_, lists.distinct⟩
    intro listed
    obtain ⟨⟨ticket, others⟩, member, rfl⟩ := List.mem_map.mp listed
    simp [lists.mem_iff.mp member] at unknown
  counted := by
    rw [counted, lists.counted, List.countP_append, List.countP_singleton]
    cases channels <;> rfl

/-- Whoever is taken off was counted once, if at all. -/
theorem Lists.filter (lists : Lists roster bus) {next : Bus}
    (live : ∀ other, next.live? other = if ticket = other then none else bus.live? other)
    (stood : bus.live? ticket = some channels)
    (counted : next.subscribers = bus.subscribers - if channels.isEmpty then 0 else 1) :
    Lists (roster.filter fun entry => entry.1 ≠ ticket) next ∧
      next.subscribers + (if channels.isEmpty then 0 else 1) = bus.subscribers := by
  have once := (perm_cons_filter_ne lists.distinct (lists.mem_iff.mpr stood)).countP_eq
    Roster.counts
  rw [← lists.counted, List.countP_cons] at once
  have weight : (if Roster.counts (ticket, channels) = true then 1 else 0) =
      if channels.isEmpty then 0 else 1 := by cases channels <;> rfl
  rw [weight] at once
  have remaining : next.subscribers =
      (roster.filter fun entry => entry.1 ≠ ticket).countP Roster.counts := by
    rw [counted, once, Nat.add_sub_cancel]
  refine ⟨⟨?_, ?_, remaining⟩, ?_⟩
  · intro other others
    rw [List.mem_filter, lists.mem_iff, live, decide_eq_true_eq]
    by_cases same : ticket = other
    · simp [same]
    · simp [same, Ne.symm same]
  · exact lists.distinct.sublist (List.filter_sublist.map Prod.fst)
  · rw [remaining, ← once]

theorem lists_step (exact : bus.Exact) (lists : Lists roster bus) (alive : event ≠ .shutDown) :
    Lists (roster.note event (step bus event).1) (step bus event).2 := by
  rcases subscribe_or_quiet event with ⟨channels, rfl⟩ | quiet
  · rcases registry_subscribe bus channels with refused | ⟨made, -, -, counted, live⟩
    · rw [refused, note_refused]
      exact lists
    · rw [made]
      exact lists.concat (exact.unknown (Nat.le_refl _)) live counted
  · obtain ⟨-, changes⟩ := registry_step_of_quiet exact.running quiet alive
    have live := live?_step_of_quiet exact.consistent quiet
    rw [note_of_quiet quiet]
    rcases changes with ⟨ticket, channels, ended, stood, -, counted⟩ | ⟨nobody, -, counted⟩
    · have others : (roster.filter fun entry => some entry.1 ≠ event.ended?) =
          roster.filter fun entry => entry.1 ≠ ticket := by simp [ended]
      simp only [ended, Option.some.injEq] at live
      rw [others]
      exact (lists.filter live stood counted).1
    · have unended : ∀ {ticket channels}, bus.live? ticket = some channels →
          event.ended? ≠ some ticket := by
        intro ticket channels stands ended
        simp [nobody ticket ended] at stands
      have everybody : (roster.filter fun entry => some entry.1 ≠ event.ended?) = roster := by
        rw [List.filter_eq_self]
        rintro ⟨ticket, channels⟩ member
        exact decide_eq_true (Ne.symm (unended (lists.mem_iff.mp member)))
      have standing : ∀ ticket, (step bus event).2.live? ticket = bus.live? ticket := by
        intro ticket
        rw [live]
        split
        · next ended => exact (nobody ticket ended).symm
        · rfl
      rw [everybody]
      constructor
      · intro ticket channels
        rw [lists.mem_iff, standing]
      · exact lists.distinct
      · exact counted.trans lists.counted

/-! ## Runs -/

/-- A bus that is not shut down stays exact, and the roster lists its live
subscriptions. -/
theorem exact_run (exact : bus.Exact) (lists : Lists roster bus) {events : List Event}
    (alive : .shutDown ∉ events) :
    (run step bus events).2.Exact ∧
      Lists (roster.after events (run step bus events).1) (run step bus events).2 := by
  induction events generalizing bus roster with
  | nil => exact ⟨exact, lists⟩
  | cons event rest ih =>
      obtain ⟨first, later⟩ := not_or.mp (mt List.mem_cons.mpr alive)
      have going : event ≠ .shutDown := Ne.symm first
      exact ih (exact_step exact going) (lists_step exact lists going) later

/-- A step gives out the next ticket or none. -/
theorem issued?_step (bus : Bus) (event : Event) :
    (step bus event).1.issued? = none ∨
      (step bus event).1.issued? = some bus.nextTicket ∧
        bus.nextTicket < (step bus event).2.nextTicket := by
  cases event with
  | subscribe channels =>
      rcases step_subscribe bus channels with ⟨-, -, refused⟩ | ⟨next, made, nextTicket, -⟩
      · exact Or.inl (by rw [refused]; rfl)
      · exact Or.inr (by rw [made, nextTicket]; exact ⟨rfl, Nat.lt_succ_self _⟩)
  | _ => exact Or.inl rfl

/-- No ticket is given out twice. -/
theorem nodup_issued (bus : Bus) (events : List Event) :
    ((run step bus events).1.filterMap Result.issued?).Nodup ∧
      ∀ ticket ∈ (run step bus events).1.filterMap Result.issued?, bus.nextTicket ≤ ticket := by
  induction events generalizing bus with
  | nil => exact ⟨List.nodup_nil, fun _ => nofun⟩
  | cons event rest ih =>
      obtain ⟨distinct, later⟩ := ih (step bus event).2
      have grows := nextTicket_le_step bus event
      rw [run_cons]
      rcases issued?_step bus event with nothing | ⟨issued, passed⟩
      · rw [List.filterMap_cons_none nothing]
        exact ⟨distinct, fun ticket member => Nat.le_trans grows (later ticket member)⟩
      · rw [List.filterMap_cons_some issued]
        constructor
        · refine List.nodup_cons.mpr ⟨?_, distinct⟩
          intro again
          exact Nat.not_le_of_lt passed (later bus.nextTicket again)
        · intro ticket member
          rcases List.mem_cons.mp member with rfl | member
          · exact Nat.le_refl _
          · exact Nat.le_trans grows (later ticket member)

/-- The channels that are kept are those that somebody on the roster asked for. -/
theorem channels_size_eq (exact : bus.Exact) (lists : Lists roster bus) :
    bus.channels.size = (roster.flatMap Prod.snd).dedup.length := by
  have distinct : bus.channels.keys.Nodup := bus.channels.distinct
  have same : bus.channels.keys.Perm (roster.flatMap Prod.snd).dedup := by
    rw [List.perm_ext_iff_of_nodup distinct (List.nodup_dedup _)]
    intro channel
    rw [Table.mem_keys_iff, exact.occupied.contains_iff, List.mem_dedup, List.mem_flatMap]
    constructor
    · rintro ⟨ticket, member⟩
      obtain ⟨channels, live, asked⟩ := exact.registered_iff.mp member
      exact ⟨(ticket, channels), lists.mem_iff.mpr live, asked⟩
    · rintro ⟨⟨ticket, channels⟩, member, asked⟩
      exact ⟨ticket, exact.registered_iff.mpr ⟨channels, lists.mem_iff.mp member, asked⟩⟩
  calc bus.channels.size
      = bus.channels.keys.length := (List.length_map ..).symm
    _ = (roster.flatMap Prod.snd).dedup.length := same.length_eq

/-- A step that ends a subscription takes it off the count if it was counted,
and changes neither count nor registrations if it was ended before. -/
theorem ended_counts (exact : bus.Exact) (lists : Lists roster bus)
    (ended : event.ended? = some ticket) :
    (∀ channels, (ticket, channels) ∈ roster →
        (step bus event).2.subscribers + (if channels.isEmpty then 0 else 1) =
          bus.subscribers) ∧
      (ticket ∉ roster.map Prod.fst →
        (step bus event).2.subscribers = bus.subscribers ∧
          (step bus event).2.channels = bus.channels) := by
  have quiet : ∀ channels, event ≠ .subscribe channels := by
    rintro channels rfl
    cases ended
  have alive : event ≠ .shutDown := by
    rintro rfl
    cases ended
  have live := live?_step_of_quiet exact.consistent quiet
  obtain ⟨-, changes⟩ := registry_step_of_quiet exact.running quiet alive
  rcases changes with ⟨leaver, asked, leaves, stood, left, counted⟩ | ⟨nobody, same, counted⟩
  · obtain rfl : leaver = ticket := Option.some.inj (leaves.symm.trans ended)
    simp only [ended, Option.some.injEq] at live
    constructor
    · intro channels member
      obtain rfl : channels = asked := Option.some.inj ((lists.mem_iff.mp member).symm.trans stood)
      exact (lists.filter live stood counted).2
    · intro absent
      exact absurd (List.mem_map_of_mem (lists.mem_iff.mpr stood)) absent
  · constructor
    · intro channels member
      cases (nobody ticket ended).symm.trans (lists.mem_iff.mp member)
    · exact fun _ => ⟨counted, same⟩

/-- Whatever is done with a bus, its subscriptions and the handles on them, the
registry follows from the roster for as long as the bus is there. A channel
holds the tickets of those on the roster who asked for it and is kept for
nobody else; no ticket is given out twice; the counters count the roster, and
ending a subscription counts down once and only if it was counted; no mailbox
holds more than fits; and keeping, copying and letting go of handles changes
nothing. -/
theorem registry_follows_roster (capacity : Nat) {events : List (Handles.Event Event)}
    (alive : .direct .shutDown ∉ events) :
    let attended := run (Handles.step step .read) (create capacity, Handles.empty) events
    let bus := attended.2.1
    let results := attended.1.filterMap id
    let roster := Roster.after [] (Handles.plain .read Handles.empty events) results
    (∀ ticket channel, ticket ∈ bus.registered channel ↔
        ∃ channels, (ticket, channels) ∈ roster ∧ channel ∈ channels) ∧
      (∀ channel tickets, bus.channels.get? channel = some tickets →
        tickets ≠ [] ∧ tickets.Nodup) ∧
      (results.filterMap Result.issued?).Nodup ∧
      (∃ traffic, bus.traffic? = some traffic ∧
        traffic.subscribers = (roster.countP fun entry => !entry.2.isEmpty) ∧
        traffic.channels = (roster.flatMap Prod.snd).dedup.length) ∧
      (∀ event ticket, event.ended? = some ticket →
        (∀ channels, (ticket, channels) ∈ roster →
          (step bus event).2.subscribers + (if channels.isEmpty then 0 else 1) =
            bus.subscribers) ∧
        (ticket ∉ roster.map Prod.fst →
          (step bus event).2.subscribers = bus.subscribers ∧
            (step bus event).2.channels = bus.channels)) ∧
      (∀ ticket subscription, bus.subscriptions.get? ticket = some subscription →
        subscription.mailbox.messages.length ≤ max capacity 1) ∧
      ∀ command, command.isClerical = true →
        (Handles.step step .read attended.2 (.handle command)).2.1 = bus := by
  intro attended bus results roster
  let steps := Handles.plain Event.read Handles.empty events
  have plainly : (results, bus) = run step (create capacity) steps :=
    Handles.run_plain step .read (create capacity) Handles.empty events
  have going : .shutDown ∉ steps := by
    intro member
    rcases Handles.mem_plain member with direct | ⟨ticket, asked, read⟩
    · exact alive direct
    · cases read
  obtain ⟨exact, lists⟩ := exact_run (exact_create capacity) (lists_create capacity) going
  obtain ⟨distinct, -⟩ := nodup_issued (create capacity) steps
  have room := capacity_run (create capacity) steps
  rw [← plainly] at exact lists distinct room
  have listed : Lists roster bus := lists
  have fits : bus.capacity = max capacity 1 := room.trans (Nat.max_comm 1 capacity)
  refine ⟨?_, ?_, distinct, ?_, ?_, ?_, ?_⟩
  · intro ticket channel
    simp only [listed.mem_iff]
    exact exact.registered_iff
  · intro channel tickets found
    have here : bus.registered channel = tickets := congrArg (Option.getD · []) found
    exact ⟨exact.occupied channel tickets found, here ▸ exact.consistent.distinct channel⟩
  · exact ⟨_, if_pos exact.running, listed.counted, channels_size_eq exact listed⟩
  · exact fun event ticket ended => ended_counts exact listed ended
  · intro ticket subscription found
    exact fits ▸ exact.fits found
  · exact fun command clerical => Handles.step_of_isClerical step .read attended.2 clerical

/-- A subscriber that names a channel twice and is unsubscribed twice, through
a handle whose first copy is gone, leaves the other subscriber behind. -/
theorem registry_follows_roster_twice :
    let events : List (Handles.Event Event) :=
      [.direct (.subscribe ["a", "b", "a"]), .direct (.subscribe ["b"]), .handle (.keep "h" 1),
        .handle (.clone "h" "i"), .handle (.drop "h"), .direct (.publish ⟨"b", [1]⟩),
        .handle (.unsubscribe "i"), .handle (.unsubscribe "i")]
    let bus := (run (Handles.step step .read) (create 1, Handles.empty) events).2.1
    .direct .shutDown ∉ events ∧ 1 ∉ bus.registered "b" ∧
      ∃ traffic, bus.traffic? = some traffic ∧ traffic.subscribers = 1 ∧ traffic.channels = 1 := by
  intro events bus
  have alive : .direct .shutDown ∉ events := by decide
  obtain ⟨registered, -, -, counted, -⟩ := registry_follows_roster 1 alive
  refine ⟨alive, ?_, counted⟩
  rw [registered]
  rintro ⟨channels, member, -⟩
  have onlyOther : (1, channels) ∈ ([(2, ["b"])] : Roster) := member
  cases List.mem_singleton.mp onlyOther

end Bus

end SharedState
