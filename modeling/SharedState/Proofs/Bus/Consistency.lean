import SharedState.Proofs.Bus.Registry

/-!
# Who is registered where

A bus keeps the tickets that are registered on each channel apart from the
subscriptions. While a mailbox is open its ticket is registered exactly on the
channels that were asked for, once on each. From this it follows that a step
changes every subscription by itself: what becomes of it depends on the step
and on the subscription, and not on any other.
-/

namespace SharedState

namespace Subscription

/-- What is left of a subscription when its holder has done something with it. -/
def obey (subscription : Subscription) : Reader.Command → Option Subscription
  | .take => some { subscription with mailbox := subscription.mailbox.take?.2 }
  | .poll => some { subscription with mailbox := subscription.mailbox.poll.2 }
  | .isWoken => some subscription
  | .unsubscribe =>
      some { subscription with mailbox := subscription.mailbox.close, unsubscribed := true }
  | .isUnsubscribed => some subscription
  | .drop => none

/-- What a step of the bus leaves of the subscription with a ticket. -/
def after (ticket : Ticket) (subscription : Subscription) : Bus.Event → Option Subscription
  | .subscribe _ => some subscription
  | .publish message =>
      if message.channel ∈ subscription.channels then
        some { subscription with mailbox := (subscription.mailbox.offer message).2 }
      else some subscription
  | .read reader command => if reader = ticket then subscription.obey command else some subscription
  | .shutDown => some { subscription with mailbox := subscription.mailbox.close }

/-- No step changes the channels or the capacity of a subscription that it
leaves, opens its mailbox again, or unsubscribes it without closing it. -/
theorem after_eq_some {ticket : Ticket} {subscription left : Subscription} {event : Bus.Event}
    (remains : subscription.after ticket event = some left) :
    left.channels = subscription.channels ∧
      left.mailbox.capacity = subscription.mailbox.capacity ∧
        (left.mailbox.isOpen = true → subscription.mailbox.isOpen = true) ∧
          (left.unsubscribed = true →
            subscription.unsubscribed = true ∨ left.mailbox.isOpen = false) := by
  cases event with
  | subscribe channels =>
      cases remains
      exact ⟨rfl, rfl, id, Or.inl⟩
  | publish message =>
      simp only [after] at remains
      split at remains <;> cases remains
      · exact ⟨rfl, Mailbox.capacity_offer .., by simp, Or.inl⟩
      · exact ⟨rfl, rfl, id, Or.inl⟩
  | read reader command =>
      simp only [after] at remains
      split at remains
      · cases command <;> cases remains
        · exact ⟨rfl, Mailbox.capacity_take? _, by simp, Or.inl⟩
        · exact ⟨rfl, Mailbox.capacity_poll _, by simp, Or.inl⟩
        · exact ⟨rfl, rfl, id, Or.inl⟩
        · exact ⟨rfl, Mailbox.capacity_close _, by simp, fun _ => Or.inr (by simp)⟩
        · exact ⟨rfl, rfl, id, Or.inl⟩
      · cases remains
        exact ⟨rfl, rfl, id, Or.inl⟩
  | shutDown =>
      cases remains
      exact ⟨rfl, Mailbox.capacity_close _, by simp, fun _ => Or.inr (by simp)⟩

end Subscription

namespace Bus

/-! ## What a step does to one subscription -/

theorem get?_withMailbox (bus : Bus) (ticket other : Ticket) (mailbox : Mailbox) :
    (bus.withMailbox ticket mailbox).subscriptions.get? other =
      (bus.subscriptions.get? other).map fun subscription =>
        if other = ticket then { subscription with mailbox } else subscription := by
  unfold withMailbox
  cases found : bus.subscriptions.get? ticket with
  | none =>
      by_cases same : other = ticket
      · simp [same, found]
      · simp [same]
  | some subscription =>
      by_cases same : other = ticket
      · simp [same, found]
      · simp [same]

theorem mailbox_of_get? {bus : Bus} {ticket : Ticket} {subscription : Subscription}
    (found : bus.subscriptions.get? ticket = some subscription) :
    bus.mailbox ticket = subscription.mailbox := by
  simp [mailbox, found]

/-- What holds of a bus at all times: tickets are given out in order, mailboxes
have the capacity of the bus, and an open mailbox is registered on the channels
of its subscription, once on each. -/
structure Consistent (bus : Bus) : Prop where
  issued : ∀ {ticket subscription}, bus.subscriptions.get? ticket = some subscription →
    ticket < bus.nextTicket
  known : ∀ {channel ticket}, ticket ∈ bus.registered channel → ticket < bus.nextTicket
  distinct : ∀ channel, (bus.registered channel).Nodup
  sized : ∀ {ticket subscription}, bus.subscriptions.get? ticket = some subscription →
    subscription.mailbox.isOpen = true → subscription.mailbox.capacity = bus.capacity
  registered_iff : ∀ {ticket subscription}, bus.subscriptions.get? ticket = some subscription →
    subscription.mailbox.isOpen = true →
      ∀ channel, ticket ∈ bus.registered channel ↔ channel ∈ subscription.channels
  ended : ∀ {ticket subscription}, bus.subscriptions.get? ticket = some subscription →
    subscription.unsubscribed = true → subscription.mailbox.isOpen = false

theorem consistent_create (capacity : Nat) : (create capacity).Consistent where
  issued found := by cases found
  known member := by cases member
  distinct _ := List.nodup_nil
  sized found := by cases found
  registered_iff found := by cases found
  ended found := by cases found

/-- A bus gives out the next ticket and registers it on the channels, or makes
no subscription at all. -/
theorem step_subscribe (bus : Bus) (channels : List String) :
    (channels ≠ [] ∧ greatestCapacity < bus.capacity ∧
        step bus (.subscribe channels) = (.refused, bus)) ∨
      ∃ next : Bus, step bus (.subscribe channels) = (.subscribed bus.nextTicket, next) ∧
        next.nextTicket = bus.nextTicket + 1 ∧ next.capacity = bus.capacity ∧
          next.channels = join bus.nextTicket channels bus.channels ∧
            next.subscriptions = bus.subscriptions.put bus.nextTicket
              ⟨channels, if channels.isEmpty then .ended else .create bus.capacity, false⟩ := by
  cases channels with
  | nil => exact Or.inr ⟨_, rfl, rfl, rfl, rfl, rfl⟩
  | cons first rest =>
      by_cases large : greatestCapacity < bus.capacity
      · have refused : step bus (.subscribe (first :: rest)) = (.refused, bus) := by
          simp [step, subscribe, large]
        exact Or.inl ⟨List.cons_ne_nil _ _, large, refused⟩
      · right
        use (step bus (.subscribe (first :: rest))).2
        simp [step, subscribe, large, keep]

theorem get?_unsubscribe {bus : Bus} (consistent : bus.Consistent) (ticket other : Ticket) :
    (bus.unsubscribe ticket).subscriptions.get? other =
      (bus.subscriptions.get? other).map fun subscription =>
        if other = ticket then
          { subscription with mailbox := subscription.mailbox.close, unsubscribed := true }
        else subscription := by
  unfold unsubscribe
  cases found : bus.subscriptions.get? ticket with
  | none =>
      by_cases same : other = ticket
      · simp [same, found]
      · simp [same]
  | some subscription =>
      by_cases already : subscription.unsubscribed = true
      · have closed := consistent.ended found already
        have unchanged : ({ subscription with
            mailbox := subscription.mailbox.close, unsubscribed := true } : Subscription) =
            subscription := by
          rw [Mailbox.close_of_closed closed, ← already]
        by_cases same : other = ticket
        · simp [already, same, found, unchanged]
        · simp [already, same]
      · simp only [already, Bool.false_eq_true, if_false]
        by_cases same : other = ticket
        · split <;> simp [same, found]
        · split <;> simp [same]

theorem get?_drop {bus : Bus} (consistent : bus.Consistent) (ticket other : Ticket) :
    (bus.drop ticket).subscriptions.get? other =
      if other = ticket then none else bus.subscriptions.get? other := by
  rw [drop, Table.get?_erase, get?_unsubscribe consistent]
  by_cases same : other = ticket <;> simp [same]

theorem get?_read {bus : Bus} (consistent : bus.Consistent) (reader ticket : Ticket)
    (command : Reader.Command) :
    (bus.read reader command).2.subscriptions.get? ticket =
      (bus.subscriptions.get? ticket).bind (Subscription.after ticket · (.read reader command)) := by
  by_cases mine : reader = ticket
  · subst mine
    simp only [Subscription.after, if_pos]
    cases found : bus.subscriptions.get? reader with
    | none =>
        cases command <;>
          simp [read, take?, poll, get?_withMailbox, get?_unsubscribe consistent,
            get?_drop consistent, found]
    | some subscription =>
        cases command <;>
          simp [read, take?, poll, get?_withMailbox, get?_unsubscribe consistent,
            get?_drop consistent, found, mailbox_of_get? found, Subscription.obey]
  · have others : ticket ≠ reader := Ne.symm mine
    cases command <;>
      simp [read, take?, poll, get?_withMailbox, get?_unsubscribe consistent,
        get?_drop consistent, Subscription.after, mine, others]

theorem get?_publish {bus : Bus} (consistent : bus.Consistent) (message : Message)
    (ticket : Ticket) :
    (bus.publish message).2.subscriptions.get? ticket =
      (bus.subscriptions.get? ticket).bind (Subscription.after ticket · (.publish message)) := by
  have offered := get?_deliver message (consistent.distinct message.channel) ⟨0, 0⟩
    bus.subscriptions ticket
  rw [publish, offered]
  cases found : bus.subscriptions.get? ticket with
  | none => rfl
  | some subscription =>
      cases isOpen : subscription.mailbox.isOpen with
      | true =>
          simp only [Option.map_some, Option.bind_some, Subscription.after,
            consistent.registered_iff found isOpen]
          split <;> rfl
      | false =>
          simp [Subscription.after, Mailbox.offer_of_closed isOpen]

theorem subscribe_or_quiet (event : Event) :
    (∃ channels, event = .subscribe channels) ∨ ∀ channels, event ≠ .subscribe channels := by
  cases event with
  | subscribe channels => exact Or.inl ⟨channels, rfl⟩
  | _ => exact Or.inr fun _ => nofun

theorem get?_step_of_quiet {bus : Bus} (consistent : bus.Consistent) {event : Event}
    (quiet : ∀ channels, event ≠ .subscribe channels) (ticket : Ticket) :
    (step bus event).2.subscriptions.get? ticket =
      (bus.subscriptions.get? ticket).bind (Subscription.after ticket · event) := by
  cases event with
  | subscribe channels => exact absurd rfl (quiet channels)
  | publish message => exact get?_publish consistent message ticket
  | read reader command => exact get?_read consistent reader ticket command
  | shutDown =>
      simp only [step, shutDown, Table.get?_mapValues]
      cases bus.subscriptions.get? ticket <;> rfl

/-- A step changes every subscription by itself. -/
theorem get?_step {bus : Bus} (consistent : bus.Consistent) (event : Event) {ticket : Ticket}
    (issued : ticket < bus.nextTicket) :
    (step bus event).2.subscriptions.get? ticket =
      (bus.subscriptions.get? ticket).bind (Subscription.after ticket · event) := by
  rcases subscribe_or_quiet event with ⟨channels, rfl⟩ | quiet
  · have unchanged : (bus.subscriptions.get? ticket).bind
        (Subscription.after ticket · (.subscribe channels)) = bus.subscriptions.get? ticket := by
      cases bus.subscriptions.get? ticket <;> rfl
    rw [unchanged]
    rcases step_subscribe bus channels with ⟨-, -, refused⟩ | ⟨next, made, -, -, -, kept⟩
    · rw [refused]
    · rw [made, kept, Table.get?_put, if_neg (Nat.ne_of_lt issued)]
  · exact get?_step_of_quiet consistent quiet ticket

/-! ## What every step keeps -/

@[simp]
theorem capacity_withMailbox (bus : Bus) (ticket : Ticket) (mailbox : Mailbox) :
    (bus.withMailbox ticket mailbox).capacity = bus.capacity := by
  unfold withMailbox
  split <;> rfl

@[simp]
theorem nextTicket_withMailbox (bus : Bus) (ticket : Ticket) (mailbox : Mailbox) :
    (bus.withMailbox ticket mailbox).nextTicket = bus.nextTicket := by
  unfold withMailbox
  split <;> rfl

@[simp]
theorem channels_withMailbox (bus : Bus) (ticket : Ticket) (mailbox : Mailbox) :
    (bus.withMailbox ticket mailbox).channels = bus.channels := by
  unfold withMailbox
  split <;> rfl

/-- Ending a subscription leaves the rest of the bus alone, and takes at most
its own ticket off channels. -/
theorem unsubscribe_cases (bus : Bus) (ticket : Ticket) :
    (bus.unsubscribe ticket).capacity = bus.capacity ∧
      (bus.unsubscribe ticket).nextTicket = bus.nextTicket ∧
        ((bus.unsubscribe ticket).channels = bus.channels ∨
          ∃ names, (bus.unsubscribe ticket).channels = leave ticket names bus.channels) := by
  unfold unsubscribe
  split
  · exact ⟨rfl, rfl, Or.inl rfl⟩
  · split
    · exact ⟨rfl, rfl, Or.inl rfl⟩
    · dsimp only
      split
      · exact ⟨rfl, rfl, Or.inr ⟨_, rfl⟩⟩
      · exact ⟨rfl, rfl, Or.inl rfl⟩

/-- A step that makes no subscription leaves the capacity and the next ticket
alone, and takes tickets off channels only if it ends their subscriptions. -/
theorem step_cases (bus : Bus) (event : Event) (quiet : ∀ channels, event ≠ .subscribe channels) :
    (step bus event).2.capacity = bus.capacity ∧
      (step bus event).2.nextTicket = bus.nextTicket ∧
        ((step bus event).2.channels = bus.channels ∨
          (∃ ticket names, (event = .read ticket .unsubscribe ∨ event = .read ticket .drop) ∧
            (step bus event).2.channels = leave ticket names bus.channels) ∨
          event = .shutDown ∧ (step bus event).2.channels = Table.empty) := by
  cases event with
  | subscribe channels => exact absurd rfl (quiet channels)
  | publish message => exact ⟨rfl, rfl, Or.inl rfl⟩
  | shutDown => exact ⟨rfl, rfl, Or.inr (Or.inr ⟨rfl, rfl⟩)⟩
  | read reader command =>
      obtain ⟨capacity, nextTicket, channels⟩ := bus.unsubscribe_cases reader
      cases command with
      | take => simp [step, read, take?]
      | poll => simp [step, read, poll]
      | isWoken => exact ⟨rfl, rfl, Or.inl rfl⟩
      | isUnsubscribed => exact ⟨rfl, rfl, Or.inl rfl⟩
      | unsubscribe =>
          rcases channels with same | ⟨names, left⟩
          · exact ⟨capacity, nextTicket, Or.inl same⟩
          · exact ⟨capacity, nextTicket, Or.inr (Or.inl ⟨reader, names, Or.inl rfl, left⟩)⟩
      | drop =>
          rcases channels with same | ⟨names, left⟩
          · exact ⟨capacity, nextTicket, Or.inl same⟩
          · exact ⟨capacity, nextTicket, Or.inr (Or.inl ⟨reader, names, Or.inr rfl, left⟩)⟩

theorem capacity_step (bus : Bus) (event : Event) : (step bus event).2.capacity = bus.capacity := by
  rcases subscribe_or_quiet event with ⟨channels, rfl⟩ | quiet
  · rcases step_subscribe bus channels with ⟨-, -, refused⟩ | ⟨next, made, -, capacity, -, -⟩
    · rw [refused]
    · rw [made, capacity]
  · exact (step_cases bus event quiet).1

theorem capacity_run (bus : Bus) (events : List Event) :
    (run step bus events).2.capacity = bus.capacity := by
  have kept : ∀ state event, state.capacity = bus.capacity →
      (step state event).2.capacity = bus.capacity :=
    fun state event same => (capacity_step state event).trans same
  exact run_invariant kept rfl events

theorem nextTicket_le_step (bus : Bus) (event : Event) :
    bus.nextTicket ≤ (step bus event).2.nextTicket := by
  rcases subscribe_or_quiet event with ⟨channels, rfl⟩ | quiet
  · rcases step_subscribe bus channels with ⟨-, -, refused⟩ | ⟨next, made, issued, -, -, -⟩
    · exact Nat.le_of_eq (by rw [refused])
    · exact Nat.le_of_lt (by rw [made, issued]; exact Nat.lt_succ_self _)
  · exact Nat.le_of_eq (step_cases bus event quiet).2.1.symm

/-- The registrations after a step that makes no subscription: all of them
stood before, and those of open mailboxes stand still. -/
theorem registered_step {bus : Bus} (consistent : bus.Consistent) {event : Event}
    (quiet : ∀ channels, event ≠ .subscribe channels) :
    (∀ channel, ((step bus event).2.registered channel).Nodup) ∧
      (∀ channel ticket, ticket ∈ (step bus event).2.registered channel →
        ticket ∈ bus.registered channel) ∧
      ∀ channel ticket subscription,
        (step bus event).2.subscriptions.get? ticket = some subscription →
          subscription.mailbox.isOpen = true → ticket ∈ bus.registered channel →
            ticket ∈ (step bus event).2.registered channel := by
  have old : ∀ channel, (ticketsOn bus.channels channel).Nodup := consistent.distinct
  rcases (step_cases bus event quiet).2.2 with
    same | ⟨leaver, names, ends, left⟩ | ⟨rfl, emptied⟩
  · simp only [registered, same]
    exact ⟨old, fun _ _ => id, fun _ _ _ _ _ => id⟩
  · have registered_eq : ∀ channel, (step bus event).2.registered channel =
        ticketsOn (leave leaver names bus.channels) channel := fun channel =>
      congrArg (ticketsOn · channel) left
    refine ⟨?_, ?_, ?_⟩
    · intro channel
      rw [registered_eq]
      exact nodup_ticketsOn_leave names old channel
    · intro channel ticket member
      rw [registered_eq, mem_ticketsOn_leave] at member
      exact member.1
    · intro channel ticket subscription found isOpen member
      rw [registered_eq, mem_ticketsOn_leave]
      constructor
      · exact member
      · rintro ⟨rfl, -⟩
        rw [get?_step_of_quiet consistent quiet] at found
        cases before : bus.subscriptions.get? ticket with
        | none => simp [before] at found
        | some subscription =>
            rcases ends with rfl | rfl
            · simp only [before, Option.bind_some, Subscription.after, if_pos, Subscription.obey,
                Option.some.injEq] at found
              subst found
              simp at isOpen
            · simp [before, Subscription.after, Subscription.obey] at found
  · have nobody : ∀ channel, (step bus .shutDown).2.registered channel = [] := fun _ => rfl
    refine ⟨?_, ?_, ?_⟩
    · intro channel
      rw [nobody]
      exact List.nodup_nil
    · intro channel ticket member
      rw [nobody] at member
      cases member
    · intro channel ticket subscription found isOpen member
      rw [get?_step_of_quiet consistent quiet] at found
      obtain ⟨before, -, remains⟩ := Option.bind_eq_some_iff.mp found
      cases remains
      simp at isOpen

/-- A new subscription finds its ticket unused. -/
theorem consistent_subscribe {bus next : Bus} {channels : List String}
    (consistent : bus.Consistent) (nextTicket : next.nextTicket = bus.nextTicket + 1)
    (capacity : next.capacity = bus.capacity)
    (joined : next.channels = join bus.nextTicket channels bus.channels)
    (kept : next.subscriptions = bus.subscriptions.put bus.nextTicket
      ⟨channels, if channels.isEmpty then .ended else .create bus.capacity, false⟩) :
    next.Consistent := by
  have registered_iff : ∀ {channel ticket}, ticket ∈ next.registered channel ↔
      ticket ∈ bus.registered channel ∨ (ticket = bus.nextTicket ∧ channel ∈ channels) := by
    intro channel ticket
    rw [registered, joined]
    exact mem_ticketsOn_join channels bus.channels
  -- A subscription is the new one or one that was there before.
  have found_cases : ∀ {ticket subscription}, next.subscriptions.get? ticket = some subscription →
      (ticket = bus.nextTicket ∧ subscription =
        ⟨channels, if channels.isEmpty then .ended else .create bus.capacity, false⟩) ∨
      (ticket ≠ bus.nextTicket ∧ bus.subscriptions.get? ticket = some subscription) := by
    intro ticket subscription found
    rw [kept, Table.get?_put] at found
    by_cases mine : ticket = bus.nextTicket
    · rw [if_pos mine] at found
      exact Or.inl ⟨mine, (Option.some.inj found).symm⟩
    · rw [if_neg mine] at found
      exact Or.inr ⟨mine, found⟩
  constructor
  · intro ticket subscription found
    rw [nextTicket]
    rcases found_cases found with ⟨rfl, -⟩ | ⟨-, before⟩
    · exact Nat.lt_succ_self _
    · exact Nat.lt_succ_of_lt (consistent.issued before)
  · intro channel ticket member
    rw [nextTicket]
    rcases registered_iff.mp member with before | ⟨rfl, -⟩
    · exact Nat.lt_succ_of_lt (consistent.known before)
    · exact Nat.lt_succ_self _
  · intro channel
    rw [registered, joined]
    exact nodup_ticketsOn_join channels consistent.distinct channel
  · intro ticket subscription found isOpen
    rcases found_cases found with ⟨-, rfl⟩ | ⟨-, before⟩
    · rw [capacity]
      by_cases nothing : channels.isEmpty = true
      · simp [nothing, Mailbox.ended] at isOpen
      · simp [nothing, Mailbox.create]
    · rw [capacity, consistent.sized before isOpen]
  · intro ticket subscription found isOpen channel
    rw [registered_iff]
    rcases found_cases found with ⟨rfl, rfl⟩ | ⟨other, before⟩
    · have unknown : bus.nextTicket ∉ bus.registered channel := fun member =>
        Nat.lt_irrefl _ (consistent.known member)
      simp [unknown]
    · rw [consistent.registered_iff before isOpen]
      simp [other]
  · intro ticket subscription found unsubscribed
    rcases found_cases found with ⟨-, rfl⟩ | ⟨-, before⟩
    · cases unsubscribed
    · exact consistent.ended before unsubscribed

theorem consistent_step {bus : Bus} (consistent : bus.Consistent) (event : Event) :
    (step bus event).2.Consistent := by
  rcases subscribe_or_quiet event with ⟨channels, rfl⟩ | quiet
  · rcases step_subscribe bus channels with
      ⟨-, -, refused⟩ | ⟨next, made, nextTicket, capacity, joined, kept⟩
    · rw [refused]
      exact consistent
    · rw [made]
      exact consistent_subscribe consistent nextTicket capacity joined kept
  · obtain ⟨capacity, nextTicket, -⟩ := step_cases bus event quiet
    obtain ⟨distinct, stood, stands⟩ := registered_step consistent quiet
    -- What is there after the step was there before and came through it.
    have found_cases : ∀ {ticket left}, (step bus event).2.subscriptions.get? ticket = some left →
        ∃ subscription, bus.subscriptions.get? ticket = some subscription ∧
          subscription.after ticket event = some left := by
      intro ticket left found
      rw [get?_step_of_quiet consistent quiet] at found
      exact Option.bind_eq_some_iff.mp found
    constructor
    · intro ticket left found
      obtain ⟨subscription, before, -⟩ := found_cases found
      exact nextTicket ▸ consistent.issued before
    · intro channel ticket member
      exact nextTicket ▸ consistent.known (stood channel ticket member)
    · exact distinct
    · intro ticket left found isOpen
      obtain ⟨subscription, before, remains⟩ := found_cases found
      obtain ⟨-, same, opened, -⟩ := Subscription.after_eq_some remains
      rw [same, capacity, consistent.sized before (opened isOpen)]
    · intro ticket left found isOpen channel
      obtain ⟨subscription, before, remains⟩ := found_cases found
      obtain ⟨channels, -, opened, -⟩ := Subscription.after_eq_some remains
      rw [channels, ← consistent.registered_iff before (opened isOpen)]
      exact ⟨stood channel ticket, stands channel ticket left found isOpen⟩
    · intro ticket left found unsubscribed
      obtain ⟨subscription, before, remains⟩ := found_cases found
      obtain ⟨-, -, opened, ended⟩ := Subscription.after_eq_some remains
      rcases ended unsubscribed with already | closed
      · have closed := consistent.ended before already
        exact Bool.eq_false_iff.mpr fun isOpen => by simp [opened isOpen] at closed
      · exact closed

theorem consistent_run {bus : Bus} (consistent : bus.Consistent) (events : List Event) :
    (run step bus events).2.Consistent := by
  have kept : ∀ (state : Bus) (event : Event), state.Consistent →
      (step state event).2.Consistent := fun _ event holds => consistent_step holds event
  exact run_invariant kept consistent events

end Bus

end SharedState
