import Mathlib.Data.List.DropRight
import DeviceOrchestrator.Api.Ws
import DeviceOrchestrator.Lib.Lossy
import DeviceOrchestrator.Lib.Slots

/-!
# The progress feed accounts for every event

The ring is the end of what was published, and a pump copies it in the step in which it subscribes,
so the replay and the queue meet without a gap. From then on its queue is one that drops its oldest
entry: what the pump takes off it is handed over, and what is dropped is counted.
-/
namespace DeviceOrchestrator

universe u

open Transition (History)

variable {Event : Type u}

/-- The queue of a subscriber is within its bound. -/
def Subscriber.Bounded (subscriber : Subscriber Event) : Prop :=
  subscriber.maxsize ≠ 0 → subscriber.queue.length ≤ subscriber.maxsize

/-- **What `offer` does.** There is room for the event, or the oldest one makes room for it. -/
inductive Offer (subscriber : Subscriber Event) (event : Event) : Subscriber Event → Prop
  /-- There is room. -/
  | room : subscriber.full = false →
      Offer subscriber event { subscriber with queue := subscriber.queue ++ [event] }
  /-- The oldest event is dropped. -/
  | drop (oldest : Event) (rest : List Event) : subscriber.full = true →
      subscriber.queue = oldest :: rest →
      Offer subscriber event
        { subscriber with queue := rest ++ [event], dropped := subscriber.dropped + 1 }

namespace Subscriber

variable {subscriber : Subscriber Event}

/-- A full queue has a bound, and reaches it. -/
theorem full_iff : subscriber.full = true ↔
    subscriber.maxsize ≠ 0 ∧ subscriber.maxsize ≤ subscriber.queue.length := by
  simp [full]

/-- `offer` goes one of these ways. -/
theorem offer_cases (bounded : subscriber.Bounded) (event : Event) :
    Offer subscriber event (subscriber.offer event) := by
  unfold offer putNowait
  cases crowded : subscriber.full with
  | false => exact .room crowded
  | true =>
    obtain ⟨limited, reached⟩ := full_iff.mp crowded
    have within := bounded limited
    cases queued : subscriber.queue with
    | nil =>
      rw [queued, List.length_nil] at reached
      omega
    | cons oldest rest =>
      have room : ({ subscriber with queue := rest, dropped := subscriber.dropped + 1 } :
          Subscriber Event).full = false := by
        rw [queued, List.length_cons] at within
        simp only [full, Bool.and_eq_false_iff, decide_eq_false_iff_not]
        exact .inr (by omega)
      simp only [if_true, List.tail_cons, room, Bool.false_eq_true, if_false,
        Option.getD_some]
      exact .drop oldest rest crowded queued

/-- An offer keeps the queue within its bound. -/
theorem bounded_offer {after : Subscriber Event} {event : Event} (bounded : subscriber.Bounded)
    (went : Offer subscriber event after) : after.Bounded := by
  intro limited
  cases went with
  | room free =>
    have notFull : ¬(subscriber.maxsize ≠ 0 ∧ subscriber.maxsize ≤ subscriber.queue.length) := by
      rw [← full_iff, free]
      exact Bool.false_ne_true
    have limited : subscriber.maxsize ≠ 0 := limited
    simp only [List.length_append, List.length_singleton]
    omega
  | drop oldest rest crowded queued =>
    have within := bounded limited
    rw [queued, List.length_cons] at within
    simpa using within

end Subscriber

namespace Pump

/-- The events of the ring that are still to be replayed. -/
def unsent (pump : Pump Event) : List Event :=
  match pump.stage with
  | .replaying rest => rest
  | _ => []

/-- The last events that were published before a pump subscribed, if it replays them. -/
def replayed (replay : Nat) (published : List Event) (pump : Pump Event) : List Event :=
  if pump.replay then (published.take pump.joined).rtake replay else []

/-- The events published since a pump subscribed. -/
def since (published : List Event) (pump : Pump Event) : List Event := published.drop pump.joined

/-- **The account of a pump**: it hands over its replay and then what it takes off its queue. -/
structure Fed (replay : Nat) (published missed : List Event) (pump : Pump Event) : Prop where
  /-- It subscribed in the past. -/
  joined : pump.joined ≤ published.length
  /-- Its queue is within its bound. -/
  bounded : pump.subscriber.Bounded
  /-- What was offered is accounted for. -/
  account : ∃ delivered,
    Lossy.Accounted (pump.since published) (delivered ++ pump.stage.pending) missed
      pump.subscriber.queue ∧
    pump.handed ++ pump.unsent = pump.replayed replay published ++ delivered ∧
    (pump.stage.live = false → delivered = [])
  /-- What was dropped is counted. -/
  counted : missed.length = pump.subscriber.dropped

/-- A message that is no event is not handed over as one. -/
@[simp]
theorem handed_send (pump : Pump Event) (message : Message Event) :
    (pump.send message).handed = pump.handed ++ message.event?.toList := by
  cases message <;> simp [handed, send, Message.event?]

section
variable {replay : Nat} {published missed : List Event} {pump after : Pump Event} {event : Event}

/-- A new event is offered to a pump that is subscribed. -/
theorem Fed.publish (fed : Fed replay published missed pump)
    (subscribed : pump.stage.subscribed = true) (event : Event) :
    Fed replay (published ++ [event])
      (missed ++ if pump.subscriber.full then pump.subscriber.queue.head?.toList else [])
      (pump.offered event) := by
  obtain ⟨delivered, accounted, handed, begun⟩ := fed.account
  have later : (published ++ [event]).drop pump.joined = pump.since published ++ [event] :=
    List.drop_append_of_le_length fed.joined
  have before : (published ++ [event]).take pump.joined = published.take pump.joined :=
    List.take_append_of_le_length fed.joined
  have went := Subscriber.offer_cases fed.bounded event
  rw [offered, if_pos subscribed]
  generalize pump.subscriber.offer event = subscriber at went
  have bounded := Subscriber.bounded_offer fed.bounded went
  have joined : pump.joined ≤ (published ++ [event]).length := by
    rw [List.length_append]
    exact fed.joined.trans (Nat.le_add_right _ _)
  have kept : pump.handed ++ pump.unsent =
      pump.replayed replay (published ++ [event]) ++ delivered := by
    rw [replayed, before]
    exact handed
  cases went with
  | room free =>
    rw [free, if_neg Bool.false_ne_true, List.append_nil]
    refine ⟨joined, bounded, ⟨delivered, ?_, kept, begun⟩, fed.counted⟩
    rw [since, later]
    exact accounted.offer event
  | drop oldest rest crowded queued =>
    rw [crowded, if_pos rfl, queued]
    refine ⟨joined, bounded, ⟨delivered, ?_, kept, begun⟩, ?_⟩
    · rw [since, later]
      rw [queued] at accounted
      exact accounted.drop event
    · simp [fed.counted]

/-- `send_json` returns. -/
theorem Fed.returned (fed : Fed replay published missed pump)
    (turned : EventHub.returned pump = some after) : Fed replay published missed after := by
  obtain ⟨delivered, accounted, handed, begun⟩ := fed.account
  unfold EventHub.returned at turned
  split at turned
  · rename_i rest stage
    obtain rfl := Option.some.inj turned
    obtain rfl := begun (by rw [stage]; rfl)
    simp only [stage, PumpStage.pending, unsent] at accounted handed
    cases rest with
    | nil => exact ⟨fed.joined, fed.bounded, ⟨[], accounted, handed, fun _ => rfl⟩, fed.counted⟩
    | cons event rest =>
      have replays : (pump.replayNext (event :: rest)).handed = pump.handed ++ [event] := by
        simp [replayNext, Pump.handed, Message.event?]
      refine ⟨fed.joined, fed.bounded, ⟨[], accounted, ?_, fun _ => rfl⟩, fed.counted⟩
      rw [replays, List.append_assoc]
      exact handed
  · rename_i stage
    obtain rfl := Option.some.inj turned
    simp only [stage, PumpStage.pending, unsent] at accounted handed
    exact ⟨fed.joined, fed.bounded, ⟨delivered, accounted, handed, nofun⟩, fed.counted⟩
  · cases turned

/-- The task of `wait_for` takes an event. -/
theorem Fed.taking (fed : Fed replay published missed pump)
    (turned : EventHub.taking pump = some after) : Fed replay published missed after := by
  obtain ⟨delivered, accounted, handed, begun⟩ := fed.account
  unfold EventHub.taking at turned
  split at turned
  · rename_i event rest stage queued
    obtain rfl := Option.some.inj turned
    simp only [stage, queued, PumpStage.pending, unsent, List.append_nil] at accounted handed
    have bounded : ({ pump.subscriber with queue := rest } : Subscriber Event).Bounded := by
      intro limited
      have within := fed.bounded limited
      rw [queued, List.length_cons] at within
      exact Nat.le_of_succ_le within
    refine ⟨fed.joined, bounded, ⟨delivered, accounted.deliver, ?_, nofun⟩, fed.counted⟩
    show pump.handed ++ [] = _
    rw [List.append_nil]
    exact handed
  · cases turned

/-- What the task of `wait_for` has taken is handed over. -/
theorem Fed.hands (fed : Fed replay published missed pump) (stage : pump.stage = .taken event) :
    Fed replay published missed (pump.send (.event event)) := by
  obtain ⟨delivered, accounted, handed, begun⟩ := fed.account
  simp only [stage, PumpStage.pending, unsent, List.append_nil] at accounted handed
  refine ⟨fed.joined, fed.bounded, ⟨delivered ++ [event], ?_, ?_, nofun⟩, fed.counted⟩
  · show Lossy.Accounted (pump.since published) (delivered ++ [event] ++ []) missed
      pump.subscriber.queue
    rw [List.append_nil]
    exact accounted
  · show (pump.send (.event event)).handed ++ [] = _ ++ (delivered ++ [event])
    rw [handed_send, handed, List.append_nil, List.append_assoc]
    rfl

/-- `wait_for` returns an event. -/
theorem Fed.getting {ownTask : Bool} (fed : Fed replay published missed pump)
    (turned : EventHub.getting ownTask pump = some after) :
    Fed replay published missed after := by
  unfold EventHub.getting at turned
  split at turned
  · rename_i event rest stage queued
    split at turned
    · cases turned
    · obtain rfl := Option.some.inj turned
      have took : EventHub.taking pump = some { pump with
          stage := .taken event
          subscriber := { pump.subscriber with queue := rest } } := by
        simp only [EventHub.taking, stage, queued]
      exact (fed.taking took).hands rfl
  · rename_i event queue stage
    obtain rfl := Option.some.inj turned
    exact fed.hands stage
  · cases turned

/-- `wait_for` times out. -/
theorem Fed.idling (fed : Fed replay published missed pump)
    (turned : EventHub.idling pump = some after) : Fed replay published missed after := by
  obtain ⟨delivered, accounted, handed, begun⟩ := fed.account
  unfold EventHub.idling at turned
  split at turned
  · rename_i stage
    obtain rfl := Option.some.inj turned
    simp only [stage, PumpStage.pending, unsent, List.append_nil] at accounted handed
    refine ⟨fed.joined, fed.bounded, ⟨delivered, ?_, ?_, nofun⟩, fed.counted⟩
    · show Lossy.Accounted (pump.since published) (delivered ++ []) missed pump.subscriber.queue
      rw [List.append_nil]
      exact accounted
    · show (pump.send (.heartbeat pump.subscriber.dropped)).handed ++ [] = _ ++ delivered
      rw [handed_send, List.append_nil, handed]
      exact List.append_nil _
  · cases turned

/-- A pump that has just connected to a ring of what was published last. -/
theorem Fed.connected {hub : EventHub Event} (ring : hub.recent = hub.published.rtake hub.replay)
    (maxsize : Nat) (replays : Bool) :
    Fed hub.replay hub.published [] (hub.connect maxsize replays) := by
  have nothing : Lossy.Accounted (hub.published.drop hub.published.length) [] [] [] := by
    rw [List.drop_length]
    exact .nil
  have bounded (limit : Nat) : ({ maxsize := limit } : Subscriber Event).Bounded :=
    fun _ => Nat.zero_le _
  unfold EventHub.connect
  cases replays with
  | false => exact ⟨le_rfl, bounded maxsize, ⟨[], nothing, rfl, fun _ => rfl⟩, rfl⟩
  | true =>
    have copied : (hub.published.take hub.published.length).rtake hub.replay = hub.recent := by
      rw [List.take_length, ring]
    cases recent : hub.recent with
    | nil =>
      rw [recent] at copied
      refine ⟨le_rfl, bounded maxsize, ⟨[], nothing, ?_, fun _ => rfl⟩, rfl⟩
      show [] = (hub.published.take hub.published.length).rtake hub.replay ++ []
      rw [copied, List.append_nil]
    | cons event rest =>
      rw [recent] at copied
      refine ⟨le_rfl, bounded maxsize, ⟨[], nothing, ?_, fun _ => rfl⟩, rfl⟩
      show event :: rest = (hub.published.take hub.published.length).rtake hub.replay ++ []
      rw [copied, List.append_nil]

end

end Pump

namespace EventHub

/-- A step as it was taken. -/
abbrev Taken (Event : Type u) := Transition.Taken (EventHub Event) (HubAction Event)

/-- The event that a step drops from the queue of a pump: the oldest one, when a publish finds the
queue full. -/
def lost (index : Nat) (taken : Taken Event) : List Event :=
  match taken.action, taken.before.pumps[index]? with
  | .publish _, some pump =>
    if pump.stage.subscribed && pump.subscriber.full then pump.subscriber.queue.head?.toList
    else []
  | _, _ => []

/-- The events dropped from the queue of a pump, in order. -/
def missed (index : Nat) : List (Taken Event) → List Event
  | [] => []
  | taken :: earlier => missed index earlier ++ lost index taken

/-- **The account of a hub.** -/
structure Feeds (replay : Nat) (past : List (Taken Event)) (hub : EventHub Event) : Prop where
  /-- The ring keeps its length. -/
  length : hub.replay = replay
  /-- The ring is the end of what was published. -/
  ring : hub.recent = hub.published.rtake replay
  /-- Every pump that is subscribed is fed. -/
  fed : ∀ (index : Nat) (pump : Pump Event), hub.pumps[index]? = some pump →
    pump.stage.subscribed = true → pump.Fed replay hub.published (missed index past)
  /-- Pumps that have not been made have missed nothing. -/
  unmade : ∀ index, hub.pumps.length ≤ index → missed index past = []

/-- The ring stays the end of what was published. -/
theorem remember_rtake {hub : EventHub Event} (ring : hub.recent = hub.published.rtake hub.replay)
    (event : Event) : hub.remember event = (hub.published ++ [event]).rtake hub.replay := by
  unfold remember
  dsimp only
  rw [ring]
  cases size : hub.replay with
  | zero => simp
  | succ most =>
    rw [List.rtake_concat_succ]
    have length : (hub.published.rtake (most + 1)).length =
        hub.published.length - (hub.published.length - (most + 1)) := List.length_drop
    by_cases short : hub.published.length ≤ most
    · have all : ∀ limit, hub.published.length ≤ limit → hub.published.rtake limit =
          hub.published := by
        intro limit few
        rw [List.rtake, Nat.sub_eq_zero_of_le few, List.drop_zero]
      rw [all _ short, all _ (Nat.le_succ_of_le short), List.length_append, List.length_singleton,
        if_neg (by omega)]
    · have shorter : (hub.published.rtake (most + 1)).tail = hub.published.rtake most := by
        rw [List.rtake, List.rtake, List.tail_drop]
        congr 1
        omega
      have present : hub.published.rtake (most + 1) ≠ [] := by
        intro empty
        rw [empty, List.length_nil] at length
        omega
      rw [List.length_append, List.length_singleton, if_pos (by omega),
        List.tail_append_of_ne_nil present, shorter]

section
variable {ownTask : Bool} {replay : Nat} {past : List (Taken Event)} {hub after : EventHub Event}
variable {action : HubAction Event}

/-- A publish is accounted for. -/
theorem feeds_publish (feeds : Feeds replay past hub) (event : Event) :
    Feeds replay (⟨hub, .publish event, hub.publish event⟩ :: past) (hub.publish event) := by
  have size := feeds.length
  subst size
  refine ⟨rfl, remember_rtake feeds.ring event, ?_, ?_⟩
  · intro index pump found subscribed
    obtain ⟨before, known, rfl⟩ := Option.map_eq_some_iff.mp (by simpa [publish] using found)
    have open' : before.stage.subscribed = true := by
      simpa [Pump.offered, apply_ite] using subscribed
    have fed := (feeds.fed index before known open').publish open' event
    simp only [missed, lost, known, open', Bool.true_and]
    exact fed
  · intro index beyond
    have absent : hub.pumps[index]? = none := by
      simpa [publish] using beyond
    rw [missed, feeds.unmade index (by simpa [publish] using beyond)]
    simp [lost, absent]

/-- A client that connects is accounted for. -/
theorem feeds_connect (feeds : Feeds replay past hub) (maxsize : Nat) (replays : Bool) :
    Feeds replay
      (⟨hub, .connect maxsize replays,
        { hub with pumps := hub.pumps ++ [hub.connect maxsize replays] }⟩ :: past)
      { hub with pumps := hub.pumps ++ [hub.connect maxsize replays] } := by
  have size := feeds.length
  subst size
  have quiet (index : Nat) (later : EventHub Event) :
      missed index (⟨hub, .connect maxsize replays, later⟩ :: past) = missed index past :=
    List.append_nil _
  refine ⟨rfl, feeds.ring, ?_, ?_⟩
  · intro index pump found subscribed
    rw [quiet]
    rcases Slots.getElem?_concat found with ⟨rfl, rfl⟩ | ⟨-, known⟩
    · rw [feeds.unmade _ le_rfl]
      exact .connected feeds.ring maxsize replays
    · exact feeds.fed index pump known subscribed
  · intro index beyond
    rw [quiet]
    refine feeds.unmade index ?_
    simp only [List.length_append, List.length_singleton] at beyond
    omega

/-- A pump that resumes is accounted for if its turn keeps its account. -/
theorem feeds_resume (feeds : Feeds replay past hub) {index : Nat}
    {turn : Pump Event → Option (Pump Event)}
    (resumed : hub.resume index turn = some after) (quiet : ∀ other, missed other
      (⟨hub, action, after⟩ :: past) = missed other past)
    (keeps : ∀ {pump next : Pump Event} {lost : List Event}, turn pump = some next →
      next.stage.subscribed = true → pump.stage.subscribed = true ∧
        (pump.Fed replay hub.published lost → next.Fed replay hub.published lost)) :
    Feeds replay (⟨hub, action, after⟩ :: past) after := by
  obtain ⟨next, turned, rfl⟩ := Option.map_eq_some_iff.mp resumed
  obtain ⟨pump, found, moved⟩ := Option.bind_eq_some_iff.mp turned
  refine ⟨feeds.length, feeds.ring, ?_, ?_⟩
  · intro other present there subscribed
    rw [quiet]
    rcases Slots.getElem?_rewritten there with ⟨rfl, rfl⟩ | ⟨-, earlier⟩
    · obtain ⟨before, fed⟩ := keeps moved subscribed
      exact fed (feeds.fed _ pump found before)
    · exact feeds.fed other present earlier subscribed
  · intro other beyond
    rw [quiet]
    exact feeds.unmade other (by simpa using beyond)

/-- **Every step is accounted for.** -/
theorem feeds_step (feeds : Feeds replay past hub) (taken : step ownTask hub action = some after) :
    Feeds replay (⟨hub, action, after⟩ :: past) after := by
  cases action with
  | publish event =>
    obtain rfl := Option.some.inj taken
    exact feeds_publish feeds event
  | connect maxsize replays =>
    obtain rfl := Option.some.inj taken
    exact feeds_connect feeds maxsize replays
  | sent index =>
    refine feeds_resume feeds taken (fun _ => List.append_nil _) ?_
    intro pump next lost turned _
    refine ⟨?_, fun fed => fed.returned turned⟩
    cases stage : pump.stage with
    | closed => simp [returned, stage] at turned
    | _ => rfl
  | take index =>
    simp only [step] at taken
    split at taken
    · refine feeds_resume feeds taken (fun _ => List.append_nil _) ?_
      intro pump next lost turned _
      refine ⟨?_, fun fed => fed.taking turned⟩
      cases stage : pump.stage with
      | closed => simp [taking, stage] at turned
      | _ => rfl
    · cases taken
  | got index =>
    refine feeds_resume feeds taken (fun _ => List.append_nil _) ?_
    intro pump next lost turned _
    refine ⟨?_, fun fed => fed.getting turned⟩
    cases stage : pump.stage with
    | closed => simp [getting, stage] at turned
    | _ => rfl
  | idle index =>
    refine feeds_resume feeds taken (fun _ => List.append_nil _) ?_
    intro pump next lost turned _
    refine ⟨?_, fun fed => fed.idling turned⟩
    cases stage : pump.stage with
    | closed => simp [idling, stage] at turned
    | _ => rfl
  | gone index =>
    refine feeds_resume feeds taken (fun _ => List.append_nil _) ?_
    intro pump next lost turned subscribed
    unfold closing at turned
    split at turned
    · obtain rfl := Option.some.inj turned
      cases subscribed
    · cases turned

/-- The hub before anything is published. -/
theorem feeds_initial (replay : Nat) :
    Feeds replay [] ({ replay := replay } : EventHub Event) where
  length := rfl
  ring := by simp
  fed index pump found := by simp at found
  unmade _ _ := rfl

/-- Every history is accounted for. -/
theorem feeds_run {allowed : EventHub Event → HubAction Event → Prop}
    (history : History (step ownTask) allowed { replay := replay } past hub) :
    Feeds replay past hub :=
  history.invariant (fun past hub => Feeds replay past hub) (feeds_initial replay)
    fun _ feeds _ taken => feeds_step feeds taken

/-! ## What a turn leaves of a pump -/

section
variable {pump next : Pump Event}

/-- `send_json` changes no counter and takes nothing. -/
theorem returned_frame (turned : returned pump = some next) :
    next.subscriber.dropped = pump.subscriber.dropped ∧ next.stage.pending = [] := by
  unfold returned at turned
  split at turned
  · rename_i rest stage
    obtain rfl := Option.some.inj turned
    cases rest <;> exact ⟨rfl, rfl⟩
  · obtain rfl := Option.some.inj turned
    exact ⟨rfl, rfl⟩
  · cases turned

/-- The task of `wait_for` changes no counter. -/
theorem taking_frame (turned : taking pump = some next) :
    next.subscriber.dropped = pump.subscriber.dropped := by
  unfold taking at turned
  split at turned
  · obtain rfl := Option.some.inj turned
    rfl
  · cases turned

/-- An event that is handed over changes no counter and is taken no more. -/
theorem getting_frame (turned : getting ownTask pump = some next) :
    next.subscriber.dropped = pump.subscriber.dropped ∧ next.stage.pending = [] := by
  unfold getting at turned
  split at turned
  · split at turned
    · cases turned
    · obtain rfl := Option.some.inj turned
      exact ⟨rfl, rfl⟩
  · obtain rfl := Option.some.inj turned
    exact ⟨rfl, rfl⟩
  · cases turned

/-- A heartbeat changes no counter and takes nothing. -/
theorem idling_frame (turned : idling pump = some next) :
    next.subscriber.dropped = pump.subscriber.dropped ∧ next.stage.pending = [] := by
  unfold idling at turned
  split at turned
  · obtain rfl := Option.some.inj turned
    exact ⟨rfl, rfl⟩
  · cases turned

/-- A pump that ends changes no counter and takes nothing. -/
theorem closing_frame (turned : closing pump = some next) :
    next.subscriber.dropped = pump.subscriber.dropped ∧ next.stage.pending = [] := by
  unfold closing at turned
  split at turned
  · obtain rfl := Option.some.inj turned
    exact ⟨rfl, rfl⟩
  · cases turned

end

end

/-- **What a step does to the queue of a pump.** -/
inductive Queues (index : Nat) (taken : Taken Event) (pump next : Pump Event) : Prop
  /-- A publish finds room. -/
  | room (event : Event) (publishes : taken.action = .publish event)
      (queue : next.subscriber.queue = pump.subscriber.queue ++ [event])
      (dropped : next.subscriber.dropped = pump.subscriber.dropped)
      (nothing : lost index taken = [])
  /-- A publish drops the oldest event and queues the new one. -/
  | drop (event oldest : Event) (rest : List Event) (publishes : taken.action = .publish event)
      (full : pump.subscriber.queue = oldest :: rest)
      (queue : next.subscriber.queue = rest ++ [event])
      (dropped : next.subscriber.dropped = pump.subscriber.dropped + 1)
      (lost : lost index taken = [oldest])
  /-- Nothing is published, and nothing is dropped. -/
  | quiet (silent : ∀ event, taken.action ≠ .publish event)
      (dropped : next.subscriber.dropped = pump.subscriber.dropped)
      (nothing : lost index taken = [])

section
variable {ownTask : Bool} {replay : Nat} {past : List (Taken Event)} {hub after : EventHub Event}
variable {action : HubAction Event} {index : Nat} {pump : Pump Event}

/-- A pump that resumes drops nothing. -/
theorem queues_resume {moved : Nat} {turn : Pump Event → Option (Pump Event)}
    (found : hub.pumps[index]? = some pump) (resumed : hub.resume moved turn = some after)
    (keeps : ∀ {next : Pump Event}, turn pump = some next →
      next.subscriber.dropped = pump.subscriber.dropped)
    (silent : ∀ event, action ≠ .publish event)
    (nothing : lost index ⟨hub, action, after⟩ = []) :
    ∃ next, after.pumps[index]? = some next ∧ Queues index ⟨hub, action, after⟩ pump next := by
  obtain ⟨next, turned, rfl⟩ := Option.map_eq_some_iff.mp resumed
  obtain ⟨before, known, turned⟩ := Option.bind_eq_some_iff.mp turned
  by_cases same : moved = index
  · subst same
    obtain rfl := Option.some.inj (found.symm.trans known)
    obtain ⟨bound, -⟩ := List.getElem?_eq_some_iff.mp found
    exact ⟨next, List.getElem?_set_self bound, .quiet silent (keeps turned) nothing⟩
  · exact ⟨pump, (List.getElem?_set_ne same).trans found, .quiet silent rfl nothing⟩

/-- **Every step does one of these to the queue of a pump that is subscribed.** -/
theorem queues_step (feeds : Feeds replay past hub) (taken : step ownTask hub action = some after)
    (found : hub.pumps[index]? = some pump) (subscribed : pump.stage.subscribed = true) :
    ∃ next, after.pumps[index]? = some next ∧ Queues index ⟨hub, action, after⟩ pump next := by
  cases action with
  | publish event =>
    obtain rfl := Option.some.inj taken
    have bounded := (feeds.fed index pump found subscribed).bounded
    refine ⟨pump.offered event, by simp [publish, found], ?_⟩
    have went := Subscriber.offer_cases bounded event
    have offered : (pump.offered event).subscriber = pump.subscriber.offer event := by
      simp [Pump.offered, subscribed]
    generalize pump.subscriber.offer event = subscriber at offered went
    cases went with
    | room free =>
      exact .room event rfl (by rw [offered]) (by rw [offered]) (by simp [lost, found, free])
    | drop oldest rest crowded queued =>
      exact .drop event oldest rest rfl queued (by rw [offered]) (by rw [offered])
        (by simp [lost, found, subscribed, crowded, queued])
  | connect maxsize replays =>
    obtain rfl := Option.some.inj taken
    obtain ⟨bound, -⟩ := List.getElem?_eq_some_iff.mp found
    exact ⟨pump, (List.getElem?_append_left bound).trans found, .quiet nofun rfl rfl⟩
  | sent moved =>
    exact queues_resume found taken (fun turned => (returned_frame turned).1) nofun rfl
  | take moved =>
    simp only [step] at taken
    split at taken
    · exact queues_resume found taken taking_frame nofun rfl
    · cases taken
  | got moved => exact queues_resume found taken (fun turned => (getting_frame turned).1) nofun rfl
  | idle moved => exact queues_resume found taken (fun turned => (idling_frame turned).1) nofun rfl
  | gone moved => exact queues_resume found taken (fun turned => (closing_frame turned).1) nofun rfl

/-- A pump that resumes leaves nothing pending if its turn does. -/
theorem pending_resume {moved : Nat} {turn : Pump Event → Option (Pump Event)}
    (nothing : ∀ pump ∈ hub.pumps, pump.stage.pending = [])
    (resumed : hub.resume moved turn = some after)
    (leaves : ∀ {pump next : Pump Event}, turn pump = some next → next.stage.pending = []) :
    ∀ pump ∈ after.pumps, pump.stage.pending = [] := by
  obtain ⟨next, turned, rfl⟩ := Option.map_eq_some_iff.mp resumed
  obtain ⟨before, -, turned⟩ := Option.bind_eq_some_iff.mp turned
  intro pump member
  rcases List.mem_or_eq_of_mem_set member with earlier | rfl
  · exact nothing pump earlier
  · exact leaves turned

/-- Where `wait_for` makes no task, nothing lies between the queue and `send_json`. -/
theorem nothing_pending {allowed : EventHub Event → HubAction Event → Prop}
    (history : History (step false) allowed { replay := replay } past hub) :
    ∀ pump ∈ hub.pumps, pump.stage.pending = [] := by
  refine history.run.invariant (fun hub => ∀ pump ∈ hub.pumps, pump.stage.pending = [])
    (by simp) ?_
  intro hub action after _ nothing _ taken
  cases action with
  | publish event =>
    obtain rfl := Option.some.inj taken
    intro pump member
    obtain ⟨before, earlier, rfl⟩ := List.mem_map.mp member
    have same : (before.offered event).stage = before.stage := by
      simp [Pump.offered, apply_ite]
    rw [same]
    exact nothing before earlier
  | connect maxsize replays =>
    obtain rfl := Option.some.inj taken
    intro pump member
    rcases List.mem_append.mp member with earlier | new
    · exact nothing pump earlier
    · obtain rfl := List.mem_singleton.mp new
      unfold connect
      cases replays with
      | false => rfl
      | true => cases hub.recent <;> rfl
  | sent moved => exact pending_resume nothing taken fun turned => (returned_frame turned).2
  | take moved => cases taken
  | got moved => exact pending_resume nothing taken fun turned => (getting_frame turned).2
  | idle moved => exact pending_resume nothing taken fun turned => (idling_frame turned).2
  | gone moved => exact pending_resume nothing taken fun turned => (closing_frame turned).2

end

end EventHub

open EventHub

/-- **The progress feed accounts for every event.** Once its replay has been sent, the events that
were handed to a socket, the one that `wait_for` is returning and those that are still queued are
the last events of the ring and then, in order and without repetition, all events published since
but the dropped ones; there are as many of these as the subscriber counted. An event is dropped
only by a publish, as the oldest one in the queue, which then ends with the new event. -/
theorem feed_accounted {ownTask : Bool} {replay : Nat}
    {allowed : EventHub Event → HubAction Event → Prop} {past : List (EventHub.Taken Event)}
    {hub : EventHub Event}
    (history : History (step ownTask) allowed { replay := replay } past hub) :
    (∀ (index : Nat) (pump : Pump Event), hub.pumps[index]? = some pump →
      pump.stage.live = true → ∃ kept,
        pump.handed ++ pump.stage.pending ++ pump.subscriber.queue =
          pump.replayed replay hub.published ++ kept ∧
        kept.Sublist (pump.since hub.published) ∧
        (kept ++ missed index past).Perm (pump.since hub.published) ∧
        (missed index past).length = pump.subscriber.dropped ∧
        kept.length + pump.subscriber.dropped = (pump.since hub.published).length) ∧
    (∀ taken ∈ past, ∀ (index : Nat) (pump : Pump Event),
      taken.before.pumps[index]? = some pump → pump.stage.subscribed = true →
        ∃ next, taken.after.pumps[index]? = some next ∧ Queues index taken pump next) ∧
    (ownTask = false → ∀ pump ∈ hub.pumps, pump.stage.pending = []) := by
  refine ⟨?_, ?_, ?_⟩
  · intro index pump found live
    have subscribed : pump.stage.subscribed = true := by
      cases stage : pump.stage with
      | closed =>
        rw [stage] at live
        cases live
      | _ => rfl
    have fed := (feeds_run history).fed index pump found subscribed
    obtain ⟨delivered, accounted, handed, -⟩ := fed.account
    obtain ⟨inOrder, -, all, length⟩ := accounted.kept
    have sent : pump.unsent = [] := by
      unfold Pump.unsent
      split
      · rename_i rest stage
        rw [stage] at live
        cases live
      · rfl
    rw [sent, List.append_nil] at handed
    refine ⟨delivered ++ pump.stage.pending ++ pump.subscriber.queue, ?_, inOrder, all,
      fed.counted, fed.counted ▸ length⟩
    rw [handed]
    simp only [List.append_assoc]
  · intro taken member index pump found subscribed
    obtain ⟨earlier, before, -, went⟩ := history.each taken member
    exact queues_step (feeds_run before) went found subscribed
  · rintro rfl
    exact nothing_pending history

namespace Bench

/-- A client that replays the last two of three events and holds one event at a time. -/
def slowClient : List (HubAction Nat) :=
  [.publish 1, .publish 2, .publish 3, .connect 1 true, .publish 4, .sent 0, .publish 5, .sent 0,
    .got 0, .publish 6, .sent 0]

/-- A client whose `wait_for` has taken the one event that was published. -/
def takingClient : List (HubAction Nat) := [.connect 1 true, .publish 1, .take 0]

end Bench

/-- The account of a client that is handed two events of the ring and misses one event. -/
theorem feed_accounted_slow : ∃ (past : List (EventHub.Taken Nat)) (hub : EventHub Nat)
    (pump : Pump Nat), hub.pumps = [pump] ∧ pump.handed = [2, 3, 5] ∧
      pump.subscriber.queue = [6] ∧ missed 0 past = [4] ∧ pump.subscriber.dropped = 1 ∧
      ∃ kept, pump.handed ++ pump.stage.pending ++ pump.subscriber.queue =
          pump.replayed 2 hub.published ++ kept ∧
        kept.Sublist (pump.since hub.published) ∧
        (kept ++ missed 0 past).Perm (pump.since hub.published) ∧
        (missed 0 past).length = pump.subscriber.dropped ∧
        kept.length + pump.subscriber.dropped = (pump.since hub.published).length := by
  have passed : (Transition.trace (Transition.guarded (step false) (fun _ _ => True)) []
      { replay := 2 } Bench.slowClient).any (fun reached =>
        decide (reached.2.pumps.length = 1 ∧ ∀ pump ∈ reached.2.pumps,
          pump.handed = [2, 3, 5] ∧ pump.subscriber.queue = [6] ∧ missed 0 reached.1 = [4] ∧
            pump.subscriber.dropped = 1 ∧ pump.stage.live = true)) = true := by
    decide +kernel
  obtain ⟨past, hub, history, shown⟩ := Transition.traces passed
  obtain ⟨one, shown⟩ := of_decide_eq_true shown
  obtain ⟨pump, alone⟩ := List.length_eq_one_iff.mp one
  have alone : hub.pumps = [pump] := alone
  obtain ⟨handed, queue, dropped, counted, live⟩ := shown pump (by simp [alone])
  have account := (feed_accounted history).1 0 pump (by simp [alone]) live
  exact ⟨past, hub, pump, alone, handed, queue, dropped, counted, account⟩

/-- **An event can be on its way**: where `wait_for` makes a task of `get`, the event that the task
has taken was neither handed over nor is it queued, and nothing was dropped. -/
theorem feed_taken_unaccounted : ∃ (past : List (EventHub.Taken Nat)) (hub : EventHub Nat)
    (pump : Pump Nat), History (step true) (fun _ _ => True) { replay := 2 } past hub ∧
      hub.pumps = [pump] ∧ pump.stage.live = true ∧ missed 0 past = [] ∧
      pump.subscriber.dropped = 0 ∧ pump.since hub.published = [1] ∧
      ¬∃ kept, pump.handed ++ pump.subscriber.queue = pump.replayed 2 hub.published ++ kept ∧
        kept.length + pump.subscriber.dropped = (pump.since hub.published).length := by
  have passed : (Transition.trace (Transition.guarded (step true) (fun _ _ => True)) []
      { replay := 2 } Bench.takingClient).any (fun reached =>
        decide (reached.2.pumps.length = 1 ∧ ∀ pump ∈ reached.2.pumps,
          pump.handed = [] ∧ pump.subscriber.queue = [] ∧ missed 0 reached.1 = [] ∧
            pump.subscriber.dropped = 0 ∧ pump.since reached.2.published = [1] ∧
            pump.stage.live = true)) = true := by
    decide +kernel
  obtain ⟨past, hub, history, shown⟩ := Transition.traces passed
  obtain ⟨one, shown⟩ := of_decide_eq_true shown
  obtain ⟨pump, alone⟩ := List.length_eq_one_iff.mp one
  have alone : hub.pumps = [pump] := alone
  obtain ⟨handed, queue, dropped, counted, since, live⟩ := shown pump (by simp [alone])
  refine ⟨past, hub, pump, history, alone, live, dropped, counted, since, ?_⟩
  rintro ⟨kept, account, length⟩
  rw [handed, queue, List.append_nil] at account
  obtain ⟨-, rfl⟩ := List.append_eq_nil_iff.mp account.symm
  rw [since, counted] at length
  cases length

end DeviceOrchestrator
