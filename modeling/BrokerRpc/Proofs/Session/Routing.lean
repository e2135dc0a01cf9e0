import BrokerRpc.Proofs.Session.Frames

/-! # Routing

In a run of a client anything may happen between two frames. Still each frame is told to the channel
that it finds subscribed in a confirmed session, nothing else is ever told to a channel, and a
receipt counts for the disconnect that waits for it, once.
-/
namespace BrokerRpc.Client

/-! ## Runs -/

inductive Event where
  | act (operation : Operation)
  /-- Bytes arrive, and the frames that they complete, with nothing between them. -/
  | receive (g : Nat) (now : Instant) (bytes : Bytes)
  /-- A disconnect starts: it says goodbye if there is a session. -/
  | goodbye (token : String)
  /-- A disconnect ends, or the owner stops the client without one. -/
  | stop
  | setPolicy (policy : Policy)
  | stopLoop

def happen (c : Client) : Event → Client × List Effect
  | .act operation => c.act operation
  | .receive g now bytes => c.receive g now bytes
  | .goodbye token =>
    let (c, effects, _) := c.sayGoodbye token
    (c, effects)
  | .stop => c.stop
  | .setPolicy policy => ({ c with link := c.link.setPolicy policy }, [])
  | .stopLoop => ({ c with link := c.link.stopLoop }, [])

def after (c : Client) (events : List Event) : Client :=
  events.foldl (fun c event => (c.happen event).1) c

def effectsOf (c : Client) : List Event → List Effect
  | [] => []
  | event :: rest => (c.happen event).2 ++ effectsOf (c.happen event).1 rest

/-- The frames that an event brings, each with the client that it finds. -/
def arrivals (c : Client) : Event → List (Client × Message)
  | .act (.frame g m) => if c.link.isLive g then [(c, m)] else []
  | .receive g now bytes =>
    let (link, messages, _) := c.link.receive g now bytes
    { c with link }.finding messages
  | _ => []

def arrivalsIn (c : Client) : List Event → List (Client × Message)
  | [] => []
  | event :: rest => c.arrivals event ++ arrivalsIn (c.happen event).1 rest

theorem sayGoodbye_spec (c : Client) (token : String) :
    (c.sayGoodbye token).1.session =
        (if c.isConnected then { c.session with receipt := some token } else c.session) ∧
      Mute (c.sayGoodbye token).2.1 := by
  have hwrite := write_spec
    { c with session := { c.session with receipt := some token } } (Session.disconnectFrame token)
  unfold sayGoodbye
  split
  · dsimp only
    split <;>
    · rename_i he
      rw [he] at hwrite
      exact hwrite
  · exact ⟨rfl, .nil⟩

/-- An event hands the session the frames that it brings, and then does what comes of no frame. -/
structure Brings (c : Client) (event : Event) (reading : Client) (ms : List Message)
    (more : List Effect) : Prop where
  session_eq : reading.session = c.session
  arrivals_eq : c.arrivals event = reading.finding ms
  apart : Apart (reading.onMessages ms).1 (c.happen event).1 more
  effects_eq : (c.happen event).2 = (reading.onMessages ms).2 ++ more

theorem brings_of_apart {c : Client} {event : Event} (harrivals : c.arrivals event = [])
    (h : Apart c (c.happen event).1 (c.happen event).2) : Brings c event c [] (c.happen event).2 :=
  ⟨rfl, harrivals, h, rfl⟩

/-- The frames of a piece of data are handled before the wire may end. -/
theorem exists_brings_receive (c : Client) (g : Nat) (now : Instant) (bytes : Bytes) :
    ∃ reading ms more, Brings c (.receive g now bytes) reading ms more := by
  let reading : Client := { c with link := (c.link.receive g now bytes).1 }
  let read := reading.onMessages (c.link.receive g now bytes).2.1
  have hends : ∃ more, Apart read.1 (c.receive g now bytes).1 more ∧
      (c.receive g now bytes).2 = read.2 ++ more := by
    rw [receive]
    cases hended : (c.link.receive g now bytes).2.2 with
    | none =>
      simp only [hended]
      exact ⟨[], .refl _, (List.append_nil _).symm⟩
    | some ended =>
      simp only [hended]
      exact ⟨_, apart_onWire _ _, rfl⟩
  obtain ⟨more, hapart, heffects⟩ := hends
  exact ⟨reading, _, more, rfl, rfl, hapart, heffects⟩

theorem exists_brings {c : Client} {event : Event} (hstop : event ≠ .stop)
    (hgoodbye : ∀ token, event = .goodbye token → c.isConnected = false) :
    ∃ reading ms more, Brings c event reading ms more := by
  cases event with
  | act operation =>
    by_cases hframe : ∃ g m, operation = .frame g m
    · obtain ⟨g, m, rfl⟩ := hframe
      cases hlive : c.link.isLive g with
      | true =>
        refine ⟨c, [m], [], rfl, ?_, ?_, ?_⟩
        · simp [arrivals, hlive, finding]
        · simp only [happen, act, hlive, if_true]
          exact .refl _
        · simp [happen, act, hlive, onMessages]
      | false =>
        refine ⟨c, [], _, brings_of_apart (by simp [arrivals, hlive]) ?_⟩
        simp only [happen, act, hlive, Bool.false_eq_true, if_false]
        exact .refl c
    · have hno : ∀ g m, operation ≠ .frame g m := fun g m he => hframe ⟨g, m, he⟩
      refine ⟨c, [], _, brings_of_apart ?_ (apart_act c hno)⟩
      cases operation with
      | frame g m => exact absurd rfl (hno g m)
      | _ => rfl
  | receive g now bytes => exact exists_brings_receive c g now bytes
  | goodbye token =>
    obtain ⟨hsession, hmute⟩ := sayGoodbye_spec c token
    rw [hgoodbye token rfl, if_neg Bool.false_ne_true] at hsession
    exact ⟨c, [], _, brings_of_apart rfl ⟨congrArg Session.receipt hsession, hmute⟩⟩
  | stop => exact absurd rfl hstop
  | setPolicy policy => exact ⟨c, [], _, brings_of_apart rfl ⟨rfl, .nil⟩⟩
  | stopLoop => exact ⟨c, [], _, brings_of_apart rfl ⟨rfl, .nil⟩⟩

theorem told_happen (c : Client) (event : Event) :
    deliveriesIn (c.happen event).2 = (c.arrivals event).filterMap (fun x => x.1.told? x.2) ∧
      receiptsIn (c.happen event).2 =
        (c.arrivals event).filterMap (fun x => x.1.confirmed? x.2) := by
  by_cases hbrings : ∃ reading ms more, Brings c event reading ms more
  · obtain ⟨reading, ms, more, h⟩ := hbrings
    obtain ⟨htold, hconfirmed⟩ := told_onMessages reading ms
    obtain ⟨huntold, hunconfirmed⟩ := h.apart.mute.untold
    rw [h.effects_eq, h.arrivals_eq, deliveriesIn_append, receiptsIn_append, huntold, hunconfirmed,
      List.append_nil, List.append_nil]
    exact ⟨htold, hconfirmed⟩
  · cases event with
    | stop => exact ((mute_settle _ _).append (mute_linkSettled _)).untold
    | goodbye token => exact (sayGoodbye_spec c token).2.untold
    | _ => exact absurd (exists_brings (by simp) (by simp)) hbrings

theorem told_effectsOf (c : Client) (events : List Event) :
    deliveriesIn (c.effectsOf events) =
        (c.arrivalsIn events).filterMap (fun x => x.1.told? x.2) ∧
      receiptsIn (c.effectsOf events) =
        (c.arrivalsIn events).filterMap (fun x => x.1.confirmed? x.2) := by
  induction events generalizing c with
  | nil => exact ⟨rfl, rfl⟩
  | cons event rest ih =>
    obtain ⟨htold, hconfirmed⟩ := told_happen c event
    obtain ⟨hdeliveries, hreceipts⟩ := ih (c.happen event).1
    rw [effectsOf, arrivalsIn, deliveriesIn_append, receiptsIn_append, List.filterMap_append,
      List.filterMap_append, htold, hconfirmed, hdeliveries, hreceipts]
    exact ⟨rfl, rfl⟩

/-! ## A disconnect in progress -/

/-- Whether an event is the end of the disconnect with the given token: the client stops, another
disconnect says goodbye, or the receipt is confirmed. -/
def Closes (c : Client) (token : String) (event : Event) : Prop :=
  event = .stop ∨ (∃ other, event = .goodbye other ∧ c.isConnected = true) ∨
    token ∈ receiptsIn (c.happen event).2

def StaysOpen (c : Client) (token : String) : List Event → Prop
  | [] => True
  | event :: rest => ¬c.Closes token event ∧ (c.happen event).1.StaysOpen token rest

/-- Frames end the wait for a receipt exactly if they confirm it. -/
theorem Takes.receipt_iff {c c' : Client} {ms : List Message} {effects : List Effect}
    (h : Takes c ms c' effects) (token : String) :
    c'.session.receipt = some token ↔
      c.session.receipt = some token ∧ token ∉ receiptsIn effects := by
  rw [h.receipt_eq, h.confirmed]
  cases c.session.receipt with
  | none => simp
  | some awaited =>
    by_cases he : awaited = token
    · subst he
      cases hm : ms.any (isReceiptFor awaited) <;> simp [Option.filter, hm]
    · simp [he]

/-- A receipt is awaited after a step if its goodbye was just said, or if it was awaited before and
the step is not its end. -/
theorem receipt_happen_iff (c : Client) (event : Event) (token : String) :
    (c.happen event).1.session.receipt = some token ↔
      event = .goodbye token ∧ c.isConnected = true ∨
        c.session.receipt = some token ∧ ¬c.Closes token event := by
  by_cases hstop : event = .stop
  · subst hstop
    simp [Closes, happen, stop, Session.stopped]
  by_cases hsaid : ∃ other, event = .goodbye other ∧ c.isConnected = true
  · obtain ⟨other, rfl, hup⟩ := hsaid
    have hsession := (sayGoodbye_spec c other).1
    rw [if_pos hup] at hsession
    have hreceipt : (c.happen (.goodbye other)).1.session.receipt = some other :=
      congrArg Session.receipt hsession
    rw [hreceipt]
    simp [Closes, hup]
  · have hgoodbye : ∀ other, event = .goodbye other → c.isConnected = false := fun other he =>
      Bool.eq_false_iff.mpr fun hup => hsaid ⟨other, he, hup⟩
    obtain ⟨reading, ms, more, h⟩ := exists_brings hstop hgoodbye
    have htakes := (takes_onMessages reading ms).apart h.apart
    rw [← h.effects_eq] at htakes
    rw [htakes.receipt_iff token, h.session_eq, Closes]
    have hnot : ¬(event = .goodbye token ∧ c.isConnected = true) := fun h => hsaid ⟨token, h⟩
    simp only [hstop, hsaid, hnot, false_or]

/-- A receipt is awaited after a run exactly if it was before and no event is its end, or if its
goodbye was said in the run and no later event is its end. -/
theorem receipt_after_iff (c : Client) (events : List Event) (token : String) :
    (c.after events).session.receipt = some token ↔
      c.session.receipt = some token ∧ c.StaysOpen token events ∨
        ∃ before rest, events = before ++ .goodbye token :: rest ∧
          (c.after before).isConnected = true ∧
          (c.after (before ++ [.goodbye token])).StaysOpen token rest := by
  induction events generalizing c with
  | nil => simp [after, StaysOpen]
  | cons event rest ih =>
    have hafter : c.after (event :: rest) = (c.happen event).1.after rest := rfl
    rw [hafter, ih, receipt_happen_iff, StaysOpen]
    -- the goodbye is the first event, or it came before the run, or it comes later in the run
    constructor
    · rintro (⟨⟨rfl, hup⟩ | ⟨hawaited, hopen⟩, hrest⟩ | ⟨before, last, rfl, hup, hrest⟩)
      · exact Or.inr ⟨[], rest, rfl, hup, hrest⟩
      · exact Or.inl ⟨hawaited, hopen, hrest⟩
      · exact Or.inr ⟨event :: before, last, rfl, hup, hrest⟩
    · rintro (⟨hawaited, hopen, hrest⟩ | ⟨before, last, hevents, hup, hrest⟩)
      · exact Or.inl ⟨Or.inr ⟨hawaited, hopen⟩, hrest⟩
      · cases before with
        | nil =>
          obtain ⟨rfl, rfl⟩ := List.cons.inj hevents
          exact Or.inl ⟨Or.inl ⟨rfl, hup⟩, hrest⟩
        | cons first before =>
          obtain ⟨rfl, rfl⟩ := List.cons.inj hevents
          exact Or.inr ⟨before, last, rfl, hup, hrest⟩

/-! ## Routing -/

/-- After any past of a client, frames are routed by the session that each of them finds.

Whatever frames arrive in a row, and whatever happens between frames in a longer run, the recipients
of channels are told exactly what the messages and errors among them tell at the moment of their
arrival, in their order: nothing before the confirmation, and nothing that names no subscribed
channel. Only a confirmation of the session changes more than the awaited receipt. A receipt is
awaited exactly from the goodbye of a disconnect to its end, and to confirm it is such an end. -/
theorem routed_by_session (link : Link) (timeout : Duration) (past : List Event) :
    let first := new link timeout
    let c := first.after past
    (∀ ms : List Message,
      let last := (c.onMessages ms).1
      deliveriesIn (c.onMessages ms).2 = (c.finding ms).filterMap (fun x => x.1.told? x.2) ∧
        last.isConnected = c.isUpAfter ms ∧ last.session.channels = c.session.channels ∧
        receiptsIn (c.onMessages ms).2 =
          (c.session.receipt.filter fun t => ms.any (isReceiptFor t)).toList ∧
        last.session.receipt = c.session.receipt.filter fun t => !ms.any (isReceiptFor t)) ∧
    (∀ m : Message, m.command ≠ .connected →
      (c.onMessage m).1 = { c with session := { c.session with
        receipt := c.session.receipt.filter fun t => !isReceiptFor t m } }) ∧
    (∀ token, c.session.receipt = some token ↔
      ∃ before rest, past = before ++ .goodbye token :: rest ∧
        (first.after before).isConnected = true ∧
        (first.after (before ++ [.goodbye token])).StaysOpen token rest) ∧
    ∀ later : List Event,
      deliveriesIn (c.effectsOf later) =
          (c.arrivalsIn later).filterMap (fun x => x.1.told? x.2) ∧
        receiptsIn (c.effectsOf later) =
          (c.arrivalsIn later).filterMap (fun x => x.1.confirmed? x.2) := by
  intro first c
  refine ⟨fun ms => ?_, fun m hcommand => ?_, fun token => ?_, told_effectsOf c⟩
  · obtain ⟨hup, hchannels⟩ := isConnected_onMessages c ms
    have htakes := takes_onMessages c ms
    exact ⟨(told_onMessages c ms).1, hup, hchannels, htakes.confirmed, htakes.receipt_eq⟩
  · have hhandles := onMessage_handles c m
    rw [← hhandles.receipt_eq]
    exact hhandles.rest_eq hcommand
  · refine (receipt_after_iff first past token).trans (or_iff_right ?_)
    rintro ⟨hawaited, _⟩
    cases hawaited

/-- Messages are dropped before each confirmation and while the channel is given up, and go to the
one who subscribed it last. Of three receipts one counts. -/
theorem routed_by_session_around_confirmation :
    let first := new (.new "broker" 61613 .standard) (.ofSeconds 10)
    let news (content : Bytes) : Message :=
      ((Message.new .message).withField .destination "news").withContent content
    let receipt (token : String) := (Message.new .receipt).withField .receiptId token
    let past : List Event :=
      [.act (.subscribe "news" "t1" 7), .act .dial, .act (.dialEnded (.ok ()))]
    let c := first.after past
    let later : List Event :=
      [.act (.frame 1 (news [1])), .act (.frame 1 (.new .connected)), .act (.frame 1 (news [2])),
        .act (.unsubscribe "news"), .act (.frame 1 (news [3])),
        .act (.subscribe "news" "t2" 8), .act (.frame 1 (news [4])),
        .goodbye "bye", .act (.frame 1 (receipt "other")), .act (.frame 1 (receipt "bye")),
        .act (.frame 1 (receipt "bye")), .act (.fail 1 .closed), .act .dial,
        .act (.dialEnded (.ok ())), .act (.frame 2 (news [5])), .act (.frame 2 (.new .connected)),
        .act (.frame 2 (news [6]))]
    (news [1]).command ≠ .connected ∧ (c.onMessage (news [1])).1 = c ∧
      deliveriesIn (c.onMessages [news [1], .new .connected, news [2]]).2 = [(7, .message [2])] ∧
      deliveriesIn (c.effectsOf later) =
        [(7, .message [2]), (8, .message [4]), (8, .message [6])] ∧
      receiptsIn (c.effectsOf later) = ["bye"] := by
  intro first news receipt past c later
  obtain ⟨hrow, hone, _, hrun⟩ := routed_by_session (.new "broker" 61613 .standard) (.ofSeconds 10)
    past
  obtain ⟨hdeliveries, hreceipts⟩ := hrun later
  have hcommand : (news [1]).command ≠ .connected := by decide
  exact ⟨hcommand, hone _ hcommand, (hrow _).1.trans (by decide), hdeliveries.trans (by decide),
    hreceipts.trans (by decide)⟩

end BrokerRpc.Client
