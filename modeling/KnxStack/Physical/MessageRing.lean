import Mathlib.Logic.Function.Basic
import KnxStack.Lib.BoundedFifo
import KnxStack.Lib.Runs

/-!
# The message ring of the bit driver

Messages from the interrupt to the task (`queueMessage` and `popMessage` of
`physical/bitbang_driver_timer_isr.cpp`). One side stores at the tail, the other one reads at the head,
with free-running indices of 32 bits and no count that both would write. A step is one load or store of
one side, and a run is any interleaving of such steps; the fields of a message are written and read one
by one. The wake-up of the task behind an accepted message reads and writes nothing of the ring.

- `Represents`: the queue that indices and cells stand for, with what each side knows in the middle of a
  call.
- `Represents.push`, `Represents.produce`, `Represents.pop`, `Represents.consume`: every step keeps it.
- `push_accepted`: a push that finds room is accepted.
- `messages_in_order`: what the two sides see over a run.
-/

set_option autoImplicit false

namespace KnxStack.Physical.MessageRing

open KnxStack.Lib KnxStack.Lib.BoundedFifo

variable {MessageType : Type}

/-! ## The source -/

/-- `MESSAGE_QUEUE_CAPACITY`. -/
def messageQueueCapacity : Nat := 128

/-- `MESSAGE_QUEUE_MASK`. -/
def messageQueueMask : UInt32 := 127

/-- `Message`. -/
structure Message (MessageType : Type) where
  type : MessageType
  data : UInt8
  deriving DecidableEq, Repr

theorem toNat_and_mask (i : UInt32) : (i &&& messageQueueMask).toNat = i.toNat % messageQueueCapacity := by
  rw [UInt32.toNat_and]
  exact Nat.and_two_pow_sub_one_eq_mod i.toNat 7

/-- The cell of an index. -/
def slot (i : UInt32) : Fin messageQueueCapacity :=
  ⟨(i &&& messageQueueMask).toNat, by
    rw [toNat_and_mask]
    exact Nat.mod_lt _ (by decide)⟩

/-- Where `queueMessage` stands, by its next load or store. -/
inductive Producer (MessageType : Type) where
  | idle
  | loadHead (message : Message MessageType) (tail : UInt32)
  | loadDropped
  | storeDropped (dropped : UInt32)
  | storeType (message : Message MessageType) (tail : UInt32)
  | storeData (message : Message MessageType) (tail : UInt32)
  | storeTail (message : Message MessageType) (tail : UInt32)

/-- Where `popMessage` stands, by its next load or store. -/
inductive Consumer (MessageType : Type) where
  | idle
  | loadTail (head : UInt32)
  | loadType (head : UInt32)
  | loadData (head : UInt32) (type : MessageType)
  | storeHead (head : UInt32) (message : Message MessageType)

/-- The ring, the two sides, and what they have seen so far: a push is refused where it finds the ring
full and accepted with its last store, a pop finds nothing at its second load and takes a message with
its last store. -/
structure DriverRing (MessageType : Type) where
  messages : Fin messageQueueCapacity → Message MessageType
  msgHead : UInt32 := 0
  msgTail : UInt32 := 0
  msgDropped : UInt32 := 0
  producer : Producer MessageType := .idle
  consumer : Consumer MessageType := .idle
  events : List (Event (Message MessageType)) := []

namespace DriverRing

/-- `queueMessage` begins. It is not called again while a call is under way. -/
def push (r : DriverRing MessageType) (message : Message MessageType) : DriverRing MessageType :=
  match r.producer with
  | .idle => { r with producer := .loadHead message r.msgTail }
  | _ => r

/-- The next load or store of `queueMessage`. -/
def produce (r : DriverRing MessageType) : DriverRing MessageType :=
  match r.producer with
  | .idle => r
  | .loadHead message tail =>
      if 128 ≤ tail - r.msgHead then
        { r with producer := .loadDropped, events := r.events ++ [.refused message] }
      else { r with producer := .storeType message tail }
  | .loadDropped => { r with producer := .storeDropped r.msgDropped }
  | .storeDropped dropped => { r with msgDropped := dropped + 1, producer := .idle }
  | .storeType message tail =>
      { r with
        messages := Function.update r.messages (slot tail)
          { r.messages (slot tail) with type := message.type }
        producer := .storeData message tail }
  | .storeData message tail =>
      { r with
        messages := Function.update r.messages (slot tail)
          { r.messages (slot tail) with data := message.data }
        producer := .storeTail message tail }
  | .storeTail message tail =>
      { r with
        msgTail := tail + 1
        producer := .idle
        events := r.events ++ [.accepted message] }

/-- `popMessage` begins, where no call is under way. -/
def pop (r : DriverRing MessageType) : DriverRing MessageType :=
  match r.consumer with
  | .idle => { r with consumer := .loadTail r.msgHead }
  | _ => r

/-- The next load or store of `popMessage`. -/
def consume (r : DriverRing MessageType) : DriverRing MessageType :=
  match r.consumer with
  | .idle => r
  | .loadTail head =>
      if head = r.msgTail then { r with consumer := .idle, events := r.events ++ [.empty] }
      else { r with consumer := .loadType head }
  | .loadType head => { r with consumer := .loadData head (r.messages (slot head)).type }
  | .loadData head type =>
      { r with consumer := .storeHead head { type := type, data := (r.messages (slot head)).data } }
  | .storeHead head message =>
      { r with
        msgHead := head + 1
        consumer := .idle
        events := r.events ++ [.taken message] }

end DriverRing

/-- One step of one side. -/
inductive Action (MessageType : Type) where
  | push (message : Message MessageType)
  | produce
  | pop
  | consume

/-- One step. -/
def step (r : DriverRing MessageType) : Action MessageType → DriverRing MessageType
  | .push message => r.push message
  | .produce => r.produce
  | .pop => r.pop
  | .consume => r.consume

/-! ## The queue behind the ring -/

/-- A refusal that is not counted yet. -/
def Producer.uncounted : Producer MessageType → Nat
  | .loadDropped | .storeDropped _ => 1
  | _ => 0

/-- What the pushing side knows of the ring in the middle of a call. -/
def Producer.Knows (r : DriverRing MessageType) (queue : List (Message MessageType)) :
    Producer MessageType → Prop
  | .idle | .loadDropped => True
  | .loadHead _ tail => tail = r.msgTail
  | .storeDropped dropped => dropped = r.msgDropped
  | .storeType _ tail => tail = r.msgTail ∧ queue.length < messageQueueCapacity
  | .storeData message tail => (tail = r.msgTail ∧ queue.length < messageQueueCapacity) ∧
      (r.messages (slot tail)).type = message.type
  | .storeTail message tail => (tail = r.msgTail ∧ queue.length < messageQueueCapacity) ∧
      r.messages (slot tail) = message

/-- What the popping side knows of the ring in the middle of a call. -/
def Consumer.Knows (r : DriverRing MessageType) (queue : List (Message MessageType)) :
    Consumer MessageType → Prop
  | .idle => True
  | .loadTail head => head = r.msgHead
  | .loadType head => head = r.msgHead ∧ queue ≠ []
  | .loadData head type => head = r.msgHead ∧ ∃ message others,
      queue = message :: others ∧ message.type = type
  | .storeHead head message => head = r.msgHead ∧ ∃ others, queue = message :: others

/-- `n` messages have left the ring, and `queue` is what is in it. -/
structure Represents (r : DriverRing MessageType) (n : Nat) (queue : List (Message MessageType)) :
    Prop where
  head : r.msgHead = UInt32.ofNat n
  tail : r.msgTail = UInt32.ofNat (n + queue.length)
  room : queue.length ≤ messageQueueCapacity
  cells : ∀ i message, queue[i]? = some message → r.messages (slot (UInt32.ofNat (n + i))) = message
  history : Replays messageQueueCapacity [] r.events queue
  counted : r.msgDropped + UInt32.ofNat r.producer.uncounted = UInt32.ofNat (refusals r.events)
  producer : r.producer.Knows r queue
  consumer : r.consumer.Knows r queue

/-! ## Indices -/

theorem slot_ofNat (k : Nat) : (slot (UInt32.ofNat k)).val = k % 128 := by
  have hmod : (UInt32.ofNat k).toNat = k % 2 ^ 32 := UInt32.toNat_ofNat'
  have hmask := toNat_and_mask (UInt32.ofNat k)
  rw [hmod] at hmask
  unfold messageQueueCapacity at hmask
  simp only [slot]
  omega

theorem ofNat_succ (k : Nat) : UInt32.ofNat k + 1 = UInt32.ofNat (k + 1) := by
  rw [UInt32.ofNat_add]
  rfl

theorem toNat_sub_ofNat {n count : Nat} (h : count ≤ 128) :
    (UInt32.ofNat (n + count) - UInt32.ofNat n).toNat = count := by
  have hn : (UInt32.ofNat n).toNat = n % 2 ^ 32 := UInt32.toNat_ofNat'
  have htail : (UInt32.ofNat (n + count)).toNat = (n + count) % 2 ^ 32 := UInt32.toNat_ofNat'
  rw [UInt32.toNat_sub, hn, htail]
  omega

namespace Represents

variable {r : DriverRing MessageType} {n : Nat} {queue : List (Message MessageType)}

theorem toNat_distance (h : Represents r n queue) :
    (r.msgTail - r.msgHead).toNat = queue.length := by
  rw [h.head, h.tail]
  exact toNat_sub_ofNat h.room

theorem slot_ne (h : Represents r n queue) (hroom : queue.length < messageQueueCapacity) {i : Nat}
    {message : Message MessageType} (hi : queue[i]? = some message) :
    slot (UInt32.ofNat (n + i)) ≠ slot r.msgTail := by
  intro hsame
  have hlt := (List.getElem?_eq_some_iff.mp hi).1
  have hval := congrArg Fin.val hsame
  rw [h.tail, slot_ofNat, slot_ofNat] at hval
  unfold messageQueueCapacity at hroom
  omega

theorem front (h : Represents r n queue) {message : Message MessageType}
    {others : List (Message MessageType)} (hqueue : queue = message :: others) :
    r.messages (slot r.msgHead) = message := by
  rw [h.head]
  exact h.cells 0 message (by rw [hqueue]; rfl)

theorem cells_update (h : Represents r n queue) (hroom : queue.length < messageQueueCapacity)
    (written : Message MessageType) (i : Nat) (message : Message MessageType)
    (hi : queue[i]? = some message) :
    Function.update r.messages (slot r.msgTail) written (slot (UInt32.ofNat (n + i))) = message := by
  rw [Function.update_of_ne (h.slot_ne hroom hi)]
  exact h.cells i message hi

end Represents

/-! ## Steps of the pushing side -/

theorem Consumer.Knows.of_msgHead {r r' : DriverRing MessageType} (hhead : r'.msgHead = r.msgHead)
    {queue : List (Message MessageType)} {consumer : Consumer MessageType}
    (h : consumer.Knows r queue) : consumer.Knows r' queue := by
  cases consumer with
  | idle => trivial
  | loadTail head => exact Eq.trans h hhead.symm
  | loadType head => exact ⟨h.1.trans hhead.symm, h.2⟩
  | loadData head type => exact ⟨h.1.trans hhead.symm, h.2⟩
  | storeHead head message => exact ⟨h.1.trans hhead.symm, h.2⟩

theorem Consumer.Knows.snoc {r : DriverRing MessageType} {queue : List (Message MessageType)}
    {consumer : Consumer MessageType} (h : consumer.Knows r queue) (last : Message MessageType) :
    consumer.Knows r (queue ++ [last]) := by
  cases consumer with
  | idle => trivial
  | loadTail head => exact h
  | loadType head => exact ⟨h.1, by simp⟩
  | loadData head type =>
    obtain ⟨hhead, message, others, rfl, htype⟩ := h
    exact ⟨hhead, message, others ++ [last], rfl, htype⟩
  | storeHead head message =>
    obtain ⟨hhead, others, rfl⟩ := h
    exact ⟨hhead, others ++ [last], rfl⟩

theorem Producer.Knows.of_same {r r' : DriverRing MessageType} (hcells : r'.messages = r.messages)
    (htail : r'.msgTail = r.msgTail) (hdropped : r'.msgDropped = r.msgDropped)
    {queue : List (Message MessageType)} {producer : Producer MessageType}
    (h : producer.Knows r queue) : producer.Knows r' queue := by
  cases producer with
  | idle => trivial
  | loadDropped => trivial
  | loadHead message tail => exact Eq.trans h htail.symm
  | storeDropped dropped => exact Eq.trans h hdropped.symm
  | storeType message tail => exact ⟨h.1.trans htail.symm, h.2⟩
  | storeData message tail => exact ⟨⟨h.1.1.trans htail.symm, h.1.2⟩, by rw [hcells]; exact h.2⟩
  | storeTail message tail => exact ⟨⟨h.1.1.trans htail.symm, h.1.2⟩, by rw [hcells]; exact h.2⟩

theorem Producer.Knows.taken {r : DriverRing MessageType} {message : Message MessageType}
    {queue : List (Message MessageType)} {producer : Producer MessageType}
    (h : producer.Knows r (message :: queue)) : producer.Knows r queue := by
  cases producer with
  | idle => trivial
  | loadDropped => trivial
  | loadHead message tail => exact h
  | storeDropped dropped => exact h
  | storeType message tail => exact ⟨h.1, Nat.lt_of_succ_lt h.2⟩
  | storeData message tail => exact ⟨⟨h.1.1, Nat.lt_of_succ_lt h.1.2⟩, h.2⟩
  | storeTail message tail => exact ⟨⟨h.1.1, Nat.lt_of_succ_lt h.1.2⟩, h.2⟩

namespace Represents

variable {r : DriverRing MessageType} {n : Nat} {queue : List (Message MessageType)}

theorem push (h : Represents r n queue) (message : Message MessageType) :
    Represents (r.push message) n queue := by
  unfold DriverRing.push
  split
  · next hidle =>
    have hcounted := h.counted
    rw [hidle] at hcounted
    exact { h with
      counted := hcounted
      producer := rfl
      consumer := h.consumer.of_msgHead rfl }
  · exact h

theorem stored (h : Represents r n queue) (hroom : queue.length < messageQueueCapacity)
    {written : Message MessageType} {producer : Producer MessageType}
    (hquiet : r.producer.uncounted = 0 ∧ producer.uncounted = 0)
    (hknows : producer.Knows
      { r with messages := Function.update r.messages (slot r.msgTail) written, producer := producer }
      queue) :
    Represents
      { r with messages := Function.update r.messages (slot r.msgTail) written, producer := producer }
      n queue := by
  have hcounted := h.counted
  rw [hquiet.1] at hcounted
  exact
    { head := h.head
      tail := h.tail
      room := h.room
      cells := h.cells_update hroom written
      history := h.history
      counted := by
        simp only [hquiet.2]
        exact hcounted
      producer := hknows
      consumer := h.consumer.of_msgHead rfl }

theorem produce (h : Represents r n queue) : ∃ queue', Represents r.produce n queue' := by
  have hknows := h.producer
  have hcounted := h.counted
  unfold DriverRing.produce
  cases hproducer : r.producer with
  | idle => exact ⟨queue, h⟩
  | loadHead message tail =>
    rw [hproducer] at hknows hcounted
    have htail : tail = r.msgTail := hknows
    subst htail
    have hfull : 128 ≤ r.msgTail - r.msgHead ↔ 128 ≤ queue.length := by
      rw [UInt32.le_iff_toNat_le, h.toNat_distance]
      rfl
    by_cases hdistance : 128 ≤ r.msgTail - r.msgHead
    · -- The head was read while all cells were taken.
      have hlength : queue.length = messageQueueCapacity :=
        Nat.le_antisymm h.room (hfull.mp hdistance)
      simp only [if_pos hdistance]
      refine ⟨queue, { h with
        history := h.history.snoc (.refused hlength)
        counted := ?_
        producer := trivial
        consumer := h.consumer.of_msgHead rfl }⟩
      have hnone : r.msgDropped = UInt32.ofNat (refusals r.events) := by
        simpa [Producer.uncounted] using hcounted
      simp only [refusals_snoc, hnone]
      exact ofNat_succ (refusals r.events)
    · have hroom : queue.length < messageQueueCapacity :=
        Nat.lt_of_not_le fun hover => hdistance (hfull.mpr hover)
      simp only [if_neg hdistance]
      exact ⟨queue, { h with
        counted := hcounted
        producer := ⟨rfl, hroom⟩
        consumer := h.consumer.of_msgHead rfl }⟩
  | loadDropped =>
    rw [hproducer] at hcounted
    exact ⟨queue, { h with
      counted := hcounted
      producer := rfl
      consumer := h.consumer.of_msgHead rfl }⟩
  | storeDropped dropped =>
    rw [hproducer] at hknows hcounted
    have hdropped : dropped = r.msgDropped := hknows
    refine ⟨queue, { h with
      counted := ?_
      producer := trivial
      consumer := h.consumer.of_msgHead rfl }⟩
    rw [hdropped, ← hcounted]
    simp [Producer.uncounted]
  | storeType message tail =>
    rw [hproducer] at hknows
    obtain ⟨rfl, hroom⟩ := hknows
    exact ⟨queue, h.stored hroom ⟨by rw [hproducer]; rfl, rfl⟩ ⟨⟨rfl, hroom⟩, by simp⟩⟩
  | storeData message tail =>
    rw [hproducer] at hknows
    obtain ⟨⟨rfl, hroom⟩, htype⟩ := hknows
    exact ⟨queue, h.stored hroom ⟨by rw [hproducer]; rfl, rfl⟩ ⟨⟨rfl, hroom⟩, by simp [htype]⟩⟩
  | storeTail message tail =>
    rw [hproducer] at hknows hcounted
    obtain ⟨⟨rfl, hroom⟩, hwritten⟩ := hknows
    refine ⟨queue ++ [message], ?_⟩
    exact
      { head := h.head
        tail := by
          rw [List.length_append, List.length_singleton, ← Nat.add_assoc, ← ofNat_succ, ← h.tail]
        room := by
          rw [List.length_append, List.length_singleton]
          exact hroom
        cells := by
          intro i message' hi
          by_cases hlast : i < queue.length
          · rw [List.getElem?_append_left hlast] at hi
            exact h.cells i message' hi
          · rw [List.getElem?_append_right (Nat.le_of_not_lt hlast)] at hi
            obtain ⟨hplace, hsame⟩ := List.getElem?_eq_some_iff.mp hi
            rw [List.length_singleton] at hplace
            have hend : i = queue.length := by omega
            subst hend
            rw [← h.tail, hwritten]
            simpa using hsame
        history := h.history.snoc (.accepted hroom)
        counted := by
          rw [refusals_snoc]
          exact hcounted
        producer := trivial
        consumer := (h.consumer.of_msgHead rfl).snoc message }

/-! ## Steps of the popping side -/

theorem pop (h : Represents r n queue) : Represents r.pop n queue := by
  unfold DriverRing.pop
  split
  · exact { h with producer := h.producer.of_same rfl rfl rfl, consumer := rfl }
  · exact h

theorem moved (h : Represents r n queue) {consumer : Consumer MessageType}
    (hknows : consumer.Knows { r with consumer := consumer } queue) :
    Represents { r with consumer := consumer } n queue :=
  { h with producer := h.producer.of_same rfl rfl rfl, consumer := hknows }

theorem consume (h : Represents r n queue) : ∃ n' queue', Represents r.consume n' queue' := by
  have hknows := h.consumer
  unfold DriverRing.consume
  cases hconsumer : r.consumer with
  | idle => exact ⟨n, queue, h⟩
  | loadTail head =>
    rw [hconsumer] at hknows
    have hhead : head = r.msgHead := hknows
    subst hhead
    have hdistance := h.toNat_distance
    by_cases hsame : r.msgHead = r.msgTail
    · -- The tail was read while nothing was in the ring.
      have hempty : queue = [] := by
        apply List.eq_nil_of_length_eq_zero
        rw [← hdistance, hsame, UInt32.sub_self]
        rfl
      subst hempty
      simp only [if_pos hsame]
      refine ⟨n, [], { h with
        history := h.history.snoc .empty
        counted := ?_
        producer := h.producer.of_same rfl rfl rfl
        consumer := trivial }⟩
      simp only [refusals_snoc]
      exact h.counted
    · have hqueue : queue ≠ [] := by
        rintro rfl
        apply hsame
        rw [h.head, h.tail]
        rfl
      simp only [if_neg hsame]
      exact ⟨n, queue, h.moved ⟨rfl, hqueue⟩⟩
  | loadType head =>
    rw [hconsumer] at hknows
    obtain ⟨rfl, hqueue⟩ := hknows
    obtain ⟨message, others, rfl⟩ := List.exists_cons_of_ne_nil hqueue
    exact ⟨n, _, h.moved ⟨rfl, message, others, rfl, congrArg Message.type (h.front rfl).symm⟩⟩
  | loadData head type =>
    rw [hconsumer] at hknows
    obtain ⟨rfl, message, others, rfl, rfl⟩ := hknows
    refine ⟨n, _, h.moved ⟨rfl, others, ?_⟩⟩
    rw [h.front rfl]
  | storeHead head message =>
    rw [hconsumer] at hknows
    obtain ⟨rfl, others, rfl⟩ := hknows
    refine ⟨n + 1, others, ?_⟩
    exact
      { head := by
          rw [← ofNat_succ, ← h.head]
        tail := by
          rw [h.tail, List.length_cons]
          congr 1
          omega
        room := Nat.le_of_succ_le h.room
        cells := by
          intro i message' hi
          have hplace := h.cells (i + 1) message' hi
          rw [show n + 1 + i = n + (i + 1) by omega]
          exact hplace
        history := h.history.snoc .taken
        counted := by
          simp only [refusals_snoc]
          exact h.counted
        producer := (h.producer.of_same rfl rfl rfl).taken
        consumer := trivial }

/-! ## Runs -/

theorem step (h : Represents r n queue) (action : Action MessageType) :
    ∃ n' queue', Represents (MessageRing.step r action) n' queue' := by
  cases action with
  | push message => exact ⟨n, queue, h.push message⟩
  | produce => exact ⟨n, h.produce⟩
  | pop => exact ⟨n, queue, h.pop⟩
  | consume => exact h.consume

end Represents

/-- The ring behind `init`, with whatever the cells hold. -/
def init (messages : Fin messageQueueCapacity → Message MessageType) : DriverRing MessageType where
  messages := messages

theorem represents_init (messages : Fin messageQueueCapacity → Message MessageType) :
    Represents (init messages) 0 [] where
  head := rfl
  tail := rfl
  room := Nat.zero_le _
  cells := by simp
  history := .nil
  counted := rfl
  producer := trivial
  consumer := trivial

theorem represents_run (messages : Fin messageQueueCapacity → Message MessageType)
    (actions : List (Action MessageType)) :
    ∃ n queue, Represents (run step (init messages) actions) n queue := by
  have hstep : ∀ (r : DriverRing MessageType) (action : Action MessageType),
      (∃ n queue, Represents r n queue) → ∃ n queue, Represents (step r action) n queue := by
    rintro r action ⟨n, queue, h⟩
    exact h.step action
  exact run_invariant hstep ⟨0, [], represents_init messages⟩ actions

/-! ## A push with room -/

/-- The call has not refused its message, and not accepted it yet. -/
def Producer.Carries (message : Message MessageType) : Producer MessageType → Prop
  | .loadHead carried _ | .storeType carried _ | .storeData carried _ | .storeTail carried _ =>
    carried = message
  | _ => False

/-- Where a push of `message` stands that found room: the messages accepted before it are `before`. -/
def Underway (before : List (Message MessageType)) (message : Message MessageType)
    (r : DriverRing MessageType) : Prop :=
  (r.producer.Carries message ∧ accepted r.events = before
      ∧ before.length < (BoundedFifo.taken r.events).length + messageQueueCapacity)
    ∨ (r.producer = .idle ∧ accepted r.events = before ++ [message])

variable {r : DriverRing MessageType} {n : Nat} {queue before : List (Message MessageType)}
  {message : Message MessageType}

theorem Underway.produce (h : Represents r n queue) (hunderway : Underway before message r) :
    Underway before message r.produce := by
  rcases hunderway with ⟨hcarries, haccepted, hroom⟩ | ⟨hidle, haccepted⟩
  · unfold DriverRing.produce
    cases hproducer : r.producer with
    | idle | loadDropped | storeDropped dropped =>
      rw [hproducer] at hcarries
      exact hcarries.elim
    | storeType carried tail | storeData carried tail =>
      rw [hproducer] at hcarries
      exact Or.inl ⟨hcarries, haccepted, hroom⟩
    | storeTail carried tail =>
      rw [hproducer] at hcarries
      obtain rfl : carried = message := hcarries
      refine Or.inr ⟨rfl, ?_⟩
      dsimp only
      rw [accepted_snoc, haccepted]
      rfl
    | loadHead carried tail =>
      rw [hproducer] at hcarries
      have htail : tail = r.msgTail := by
        have hknows := h.producer
        rw [hproducer] at hknows
        exact hknows
      -- What was taken meanwhile only makes more room.
      have hlength := congrArg List.length h.history.conserves
      rw [List.nil_append, haccepted, List.length_append] at hlength
      have hdistance : ¬ 128 ≤ tail - r.msgHead := by
        have hcapacity : messageQueueCapacity = 128 := rfl
        have hlimit : (128 : UInt32).toNat = 128 := rfl
        rw [htail, UInt32.le_iff_toNat_le, h.toNat_distance, hlimit]
        omega
      dsimp only
      rw [if_neg hdistance]
      exact Or.inl ⟨hcarries, haccepted, hroom⟩
  · have hsame : r.produce = r := by
      unfold DriverRing.produce
      rw [hidle]
    rw [hsame]
    exact Or.inr ⟨hidle, haccepted⟩

/-- The popping side accepts nothing. -/
theorem Underway.consume (hunderway : Underway before message r) :
    Underway before message r.consume := by
  have hside : r.consume.producer = r.producer ∧ accepted r.consume.events = accepted r.events
      ∧ (BoundedFifo.taken r.events).length ≤ (BoundedFifo.taken r.consume.events).length := by
    unfold DriverRing.consume
    split
    · exact ⟨rfl, rfl, Nat.le_refl _⟩
    · split
      · simp [accepted_snoc, taken_snoc, Event.accepted?]
      · exact ⟨rfl, rfl, Nat.le_refl _⟩
    · exact ⟨rfl, rfl, Nat.le_refl _⟩
    · exact ⟨rfl, rfl, Nat.le_refl _⟩
    · simp [accepted_snoc, taken_snoc, Event.accepted?]
  obtain ⟨hproducer, haccepted, htaken⟩ := hside
  unfold Underway
  rw [hproducer, haccepted]
  rcases hunderway with ⟨hcarries, hbefore, hroom⟩ | hended
  · exact Or.inl ⟨hcarries, hbefore, by omega⟩
  · exact Or.inr hended

/-- A push that finds room and runs to its end is accepted, whatever the popping side does meanwhile. -/
theorem push_accepted (messages : Fin messageQueueCapacity → Message MessageType)
    (actions later : List (Action MessageType))
    (hidle : (run step (init messages) actions).producer = .idle)
    (hroom : (accepted (run step (init messages) actions).events).length
      < (BoundedFifo.taken (run step (init messages) actions).events).length + messageQueueCapacity)
    (hlater : ∀ action ∈ later, ∀ message, action ≠ .push message)
    (hend : (run step (init messages) (actions ++ .push message :: later)).producer = .idle) :
    accepted (run step (init messages) (actions ++ .push message :: later)).events
      = accepted (run step (init messages) actions).events ++ [message] := by
  obtain ⟨n, queue, h⟩ := represents_run messages actions
  rw [run_append, run_cons] at hend ⊢
  generalize run step (init messages) actions = r at *
  have hbegun : Underway (accepted r.events) message (r.push message) := by
    unfold DriverRing.push
    rw [hidle]
    exact Or.inl ⟨rfl, rfl, hroom⟩
  have hstep : ∀ (s : DriverRing MessageType) (action : Action MessageType),
      (∃ n queue, Represents s n queue) ∧ Underway (accepted r.events) message s →
        (∀ message, action ≠ .push message) →
          (∃ n queue, Represents (step s action) n queue)
            ∧ Underway (accepted r.events) message (step s action) := by
    rintro s action ⟨⟨n, queue, hs⟩, hunderway⟩ hother
    refine ⟨hs.step action, ?_⟩
    cases action with
    | push other => exact absurd rfl (hother other)
    | produce => exact hunderway.produce hs
    | pop =>
      change Underway _ _ s.pop
      unfold DriverRing.pop
      split
      · exact hunderway
      · exact hunderway
    | consume => exact hunderway.consume
  have hrun := run_invariant_along hstep ⟨⟨n, queue, h.push message⟩, hbegun⟩
    (along_of_forall_mem (r.push message) hlater)
  rcases hrun.2 with ⟨hcarries, -, -⟩ | ⟨-, haccepted⟩
  · have himpossible : (run step (r.push message) later).producer = .idle := hend
    rw [himpossible] at hcarries
    exact hcarries.elim
  · exact haccepted

/-! ## What the two sides see -/

/-- What the two sides see. In every interleaving the messages taken are the accepted ones in order,
and what is still to be taken fits in the ring; a push is refused only while the ring holds as many
messages as it has cells; the drop counter has counted every refused push once, but for one that is
being refused. -/
theorem messages_in_order (messages : Fin messageQueueCapacity → Message MessageType)
    (actions : List (Action MessageType)) :
    ∃ queue, queue.length ≤ messageQueueCapacity ∧
      BoundedFifo.taken (run step (init messages) actions).events ++ queue
        = accepted (run step (init messages) actions).events ∧
      (∀ earlier message later,
        (run step (init messages) actions).events = earlier ++ .refused message :: later →
          (accepted earlier).length = (BoundedFifo.taken earlier).length + messageQueueCapacity) ∧
      (run step (init messages) actions).msgDropped
          + UInt32.ofNat (run step (init messages) actions).producer.uncounted
        = UInt32.ofNat (refusals (run step (init messages) actions).events) := by
  obtain ⟨n, queue, h⟩ := represents_run messages actions
  refine ⟨queue, h.room, h.history.conserves.symm, ?_, h.counted⟩
  intro earlier message later hevents
  obtain ⟨full, hearlier, hfull⟩ := h.history.refused hevents
  have hlengths := congrArg List.length hearlier.conserves
  rw [List.nil_append, List.length_append, hfull] at hlengths
  exact hlengths

end KnxStack.Physical.MessageRing
