import Mathlib.Data.List.Nodup
import SharedState.Bus
import SharedState.Proofs.Tables

/-!
# Channels and the tickets on them

What joining and leaving do to the tickets that are registered on a channel,
and what becomes of the mailboxes when a message is offered to distinct
tickets: each of them gets it once, and those that would take it are counted.
-/

namespace SharedState

namespace Mailbox

/-- Whether a mailbox takes a message that is offered now. -/
def takes (mailbox : Mailbox) : Bool :=
  mailbox.isOpen && decide (mailbox.messages.length < mailbox.capacity)

theorem offer_of_closed {mailbox : Mailbox} (closed : mailbox.isOpen = false)
    (message : Message) : mailbox.offer message = (.closed, mailbox) := by
  simp [offer, closed]

theorem close_of_closed {mailbox : Mailbox} (closed : mailbox.isOpen = false) :
    mailbox.close = mailbox := by
  simp [close, closed]

@[simp]
theorem isOpen_close (mailbox : Mailbox) : mailbox.close.isOpen = false := by
  unfold close
  by_cases isOpen : mailbox.isOpen = true
  · simp [isOpen]
  · simp [isOpen]

@[simp]
theorem capacity_close (mailbox : Mailbox) : mailbox.close.capacity = mailbox.capacity := by
  unfold close
  split <;> rfl

@[simp]
theorem isOpen_offer (mailbox : Mailbox) (message : Message) :
    (mailbox.offer message).2.isOpen = mailbox.isOpen := by
  unfold offer
  split
  · rfl
  · split <;> rfl

@[simp]
theorem capacity_offer (mailbox : Mailbox) (message : Message) :
    (mailbox.offer message).2.capacity = mailbox.capacity := by
  unfold offer
  split
  · rfl
  · split <;> rfl

@[simp]
theorem isOpen_take? (mailbox : Mailbox) : mailbox.take?.2.isOpen = mailbox.isOpen := by
  unfold take?
  split <;> rfl

@[simp]
theorem capacity_take? (mailbox : Mailbox) : mailbox.take?.2.capacity = mailbox.capacity := by
  unfold take?
  split <;> rfl

@[simp]
theorem isOpen_poll (mailbox : Mailbox) : mailbox.poll.2.isOpen = mailbox.isOpen := by
  unfold poll
  split
  · rfl
  · split <;> rfl

@[simp]
theorem capacity_poll (mailbox : Mailbox) : mailbox.poll.2.capacity = mailbox.capacity := by
  unfold poll
  split
  · rfl
  · split <;> rfl

/-- What an offer adds to the tally. -/
theorem accepted_add_offer (mailbox : Mailbox) (message : Message) (tally : Bus.Tally) :
    (tally.add (mailbox.offer message).1).accepted =
      tally.accepted + if mailbox.takes = true then 1 else 0 := by
  unfold offer takes
  by_cases isOpen : mailbox.isOpen = true
  · by_cases full : mailbox.capacity ≤ mailbox.messages.length
    · simp [isOpen, full, Bus.Tally.add, Nat.not_lt_of_le full]
    · simp [isOpen, full, Bus.Tally.add, Nat.lt_of_not_le full]
  · simp [isOpen, Bus.Tally.add]

/-- An open mailbox takes the message or is full. -/
theorem handled_add_offer (mailbox : Mailbox) (message : Message) (tally : Bus.Tally) :
    (tally.add (mailbox.offer message).1).accepted + (tally.add (mailbox.offer message).1).full =
      tally.accepted + tally.full + if mailbox.isOpen = true then 1 else 0 := by
  unfold offer
  by_cases isOpen : mailbox.isOpen = true
  · by_cases full : mailbox.capacity ≤ mailbox.messages.length
    · simp [isOpen, full, Bus.Tally.add, Nat.add_assoc]
    · simp [isOpen, full, Bus.Tally.add, Nat.add_right_comm]
  · simp [isOpen, Bus.Tally.add]

end Mailbox

namespace Bus

/-! ## Joining and leaving channels -/

/-- The tickets on a channel of a table. -/
def ticketsOn (channels : Table String (List Ticket)) (channel : String) : List Ticket :=
  (channels.get? channel).getD []

theorem ticketsOn_put (channels : Table String (List Ticket)) (name channel : String)
    (tickets : List Ticket) :
    ticketsOn (channels.put name tickets) channel =
      if channel = name then tickets else ticketsOn channels channel := by
  unfold ticketsOn
  rw [Table.get?_put]
  split <;> rfl

theorem ticketsOn_erase (channels : Table String (List Ticket)) (name channel : String) :
    ticketsOn (channels.erase name) channel =
      if channel = name then [] else ticketsOn channels channel := by
  unfold ticketsOn
  rw [Table.get?_erase]
  split <;> rfl

/-- Joining registers the ticket on the named channels and changes nothing
else; a channel that is named twice is joined once. -/
theorem mem_ticketsOn_join {ticket other : Ticket} {channel : String} (names : List String)
    (channels : Table String (List Ticket)) :
    other ∈ ticketsOn (join ticket names channels) channel ↔
      other ∈ ticketsOn channels channel ∨ (other = ticket ∧ channel ∈ names) := by
  induction names generalizing channels with
  | nil => simp [join]
  | cons name rest ih =>
      simp only [join]
      rw [ih, List.mem_cons]
      by_cases present : ticket ∈ (channels.get? name).getD []
      · rw [if_pos present]
        by_cases same : channel = name
        · subst same
          have here : ticket ∈ ticketsOn channels channel := present
          by_cases mine : other = ticket
          · subst mine
            simp [here]
          · simp [mine]
        · simp [same]
      · rw [if_neg present, ticketsOn_put]
        by_cases same : channel = name
        · subst same
          rw [if_pos rfl]
          have unfolded : other ∈ (channels.get? channel).getD [] ↔
              other ∈ ticketsOn channels channel := Iff.rfl
          rw [List.mem_append, List.mem_singleton, unfolded]
          by_cases mine : other = ticket <;> simp [mine]
        · simp [same]

theorem nodup_ticketsOn_join {ticket : Ticket} (names : List String)
    {channels : Table String (List Ticket)}
    (distinct : ∀ channel, (ticketsOn channels channel).Nodup) (channel : String) :
    (ticketsOn (join ticket names channels) channel).Nodup := by
  induction names generalizing channels with
  | nil => exact distinct channel
  | cons name rest ih =>
      apply ih
      intro channel
      by_cases present : ticket ∈ (channels.get? name).getD []
      · rw [if_pos present]
        exact distinct channel
      · rw [if_neg present, ticketsOn_put]
        by_cases same : channel = name
        · rw [if_pos same]
          have apart : ∀ other ∈ ticketsOn channels name, ∀ added ∈ [ticket], other ≠ added := by
            rintro other member added addedMem rfl
            exact present (List.mem_singleton.mp addedMem ▸ member)
          exact List.nodup_append.mpr ⟨distinct name, List.nodup_singleton ticket, apart⟩
        · rw [if_neg same]
          exact distinct channel

/-- A channel that would be left without tickets is forgotten, which comes to
the same. -/
theorem ticketsOn_replace (channels : Table String (List Ticket)) (name channel : String)
    (tickets : List Ticket) :
    ticketsOn (if tickets.isEmpty then channels.erase name else channels.put name tickets)
        channel =
      if channel = name then tickets else ticketsOn channels channel := by
  by_cases alone : tickets.isEmpty = true
  · rw [if_pos alone, ticketsOn_erase, List.isEmpty_iff.mp alone]
  · rw [if_neg alone, ticketsOn_put]

/-- Leaving takes the ticket off the named channels and changes nothing else. -/
theorem mem_ticketsOn_leave {ticket other : Ticket} {channel : String} (names : List String)
    (channels : Table String (List Ticket)) :
    other ∈ ticketsOn (leave ticket names channels) channel ↔
      other ∈ ticketsOn channels channel ∧ ¬(other = ticket ∧ channel ∈ names) := by
  induction names generalizing channels with
  | nil => simp [leave]
  | cons name rest ih =>
      rw [leave, List.mem_cons]
      cases found : channels.get? name with
      | none =>
          rw [ih]
          by_cases same : channel = name
          · subst same
            simp [ticketsOn, found]
          · simp [same]
      | some tickets =>
          have here : ticketsOn channels name = tickets := by simp [ticketsOn, found]
          rw [ih, ticketsOn_replace]
          by_cases same : channel = name
          · subst same
            rw [if_pos rfl, here, List.mem_filter]
            by_cases mine : other = ticket <;> simp [mine]
          · simp [same]

theorem nodup_ticketsOn_leave {ticket : Ticket} (names : List String)
    {channels : Table String (List Ticket)}
    (distinct : ∀ channel, (ticketsOn channels channel).Nodup) (channel : String) :
    (ticketsOn (leave ticket names channels) channel).Nodup := by
  induction names generalizing channels with
  | nil => exact distinct channel
  | cons name rest ih =>
      rw [leave]
      cases found : channels.get? name with
      | none => exact ih distinct
      | some tickets =>
          have here : ticketsOn channels name = tickets := by simp [ticketsOn, found]
          apply ih
          intro channel
          rw [ticketsOn_replace]
          by_cases same : channel = name
          · rw [if_pos same]
            exact (here ▸ distinct name).filter _
          · rw [if_neg same]
            exact distinct channel

/-- No channel is kept without tickets. -/
def Occupied (channels : Table String (List Ticket)) : Prop :=
  ∀ channel tickets, channels.get? channel = some tickets → tickets ≠ []

theorem occupied_join (ticket : Ticket) (names : List String)
    {channels : Table String (List Ticket)} (occupied : Occupied channels) :
    Occupied (join ticket names channels) := by
  induction names generalizing channels with
  | nil => exact occupied
  | cons name rest ih =>
      apply ih
      split
      · exact occupied
      · exact Table.All.put occupied name
          (List.append_ne_nil_of_right_ne_nil _ (List.cons_ne_nil _ _))

theorem occupied_leave (ticket : Ticket) (names : List String)
    {channels : Table String (List Ticket)} (occupied : Occupied channels) :
    Occupied (leave ticket names channels) := by
  induction names generalizing channels with
  | nil => exact occupied
  | cons name rest ih =>
      rw [leave]
      cases channels.get? name with
      | none => exact ih occupied
      | some tickets =>
          apply ih
          refine Table.All.replace occupied name fun somebody nobody => ?_
          rw [List.isEmpty_iff.mpr nobody] at somebody
          cases somebody

/-- A channel is kept exactly if somebody is registered on it. -/
theorem Occupied.contains_iff {channels : Table String (List Ticket)}
    (occupied : Occupied channels) (channel : String) :
    channels.contains channel = true ↔ ∃ ticket, ticket ∈ ticketsOn channels channel := by
  unfold Table.contains ticketsOn
  cases found : channels.get? channel with
  | none => simp
  | some tickets => simpa using List.exists_mem_of_ne_nil tickets (occupied channel tickets found)

/-! ## Offering a message to many mailboxes -/

/-- An offer to distinct tickets reaches each of their mailboxes once. -/
theorem get?_deliver (message : Message) {tickets : List Ticket} (distinct : tickets.Nodup)
    (tally : Tally) (subscriptions : Table Ticket Subscription) (ticket : Ticket) :
    (deliver message tickets (tally, subscriptions)).2.get? ticket =
      (subscriptions.get? ticket).map fun subscription =>
        if ticket ∈ tickets then
          { subscription with mailbox := (subscription.mailbox.offer message).2 }
        else subscription := by
  induction tickets generalizing tally subscriptions with
  | nil => simp [deliver]
  | cons first rest ih =>
      obtain ⟨fresh, distinct⟩ := List.nodup_cons.mp distinct
      rw [deliver]
      cases found : subscriptions.get? first with
      | none =>
          simp only [ih distinct, List.mem_cons]
          by_cases same : ticket = first
          · simp [same, found]
          · simp [same]
      | some subscription =>
          simp only [ih distinct, List.mem_cons, Table.get?_put]
          by_cases same : ticket = first
          · subst same
            simp [fresh, found]
          · simp [same]

/-- What is counted of a tally grows by one for each mailbox that makes it grow. -/
theorem tally_deliver {message : Message} (counted : Tally → Nat) (counts : Mailbox → Bool)
    (offered : ∀ (mailbox : Mailbox) (tally : Tally),
      counted (tally.add (mailbox.offer message).1) =
        counted tally + if counts mailbox = true then 1 else 0)
    {tickets : List Ticket} (distinct : tickets.Nodup) (tally : Tally)
    (subscriptions : Table Ticket Subscription) :
    counted (deliver message tickets (tally, subscriptions)).1 =
      counted tally + tickets.countP fun ticket =>
        (subscriptions.get? ticket).any fun subscription => counts subscription.mailbox := by
  induction tickets generalizing tally subscriptions with
  | nil => rfl
  | cons first rest ih =>
      obtain ⟨fresh, distinct⟩ := List.nodup_cons.mp distinct
      rw [deliver, List.countP_cons]
      cases found : subscriptions.get? first with
      | none => simp [ih distinct]
      | some subscription =>
          have others : (rest.countP fun ticket =>
              ((subscriptions.put first
                { subscription with mailbox := (subscription.mailbox.offer message).2 }).get?
                  ticket).any fun subscription => counts subscription.mailbox) =
              rest.countP fun ticket => (subscriptions.get? ticket).any fun subscription =>
                counts subscription.mailbox := by
            apply List.countP_congr
            intro ticket member
            have different : ticket ≠ first := fun same => fresh (same ▸ member)
            simp [different]
          simp only [ih distinct, others, offered]
          simp only [Option.any_some]
          omega

/-- As many mailboxes accept the message as would take it. -/
theorem accepted_deliver (message : Message) {tickets : List Ticket} (distinct : tickets.Nodup)
    (tally : Tally) (subscriptions : Table Ticket Subscription) :
    (deliver message tickets (tally, subscriptions)).1.accepted =
      tally.accepted + tickets.countP fun ticket =>
        (subscriptions.get? ticket).any fun subscription => subscription.mailbox.takes :=
  tally_deliver Tally.accepted Mailbox.takes
    (fun mailbox tally => mailbox.accepted_add_offer message tally) distinct tally subscriptions

/-- As many mailboxes accept the message or are full as are open. -/
theorem handled_deliver (message : Message) {tickets : List Ticket} (distinct : tickets.Nodup)
    (tally : Tally) (subscriptions : Table Ticket Subscription) :
    (deliver message tickets (tally, subscriptions)).1.accepted +
        (deliver message tickets (tally, subscriptions)).1.full =
      tally.accepted + tally.full + tickets.countP fun ticket =>
        (subscriptions.get? ticket).any fun subscription => subscription.mailbox.isOpen :=
  tally_deliver (fun tally => tally.accepted + tally.full) Mailbox.isOpen
    (fun mailbox tally => mailbox.handled_add_offer message tally) distinct tally subscriptions

end Bus

end SharedState
