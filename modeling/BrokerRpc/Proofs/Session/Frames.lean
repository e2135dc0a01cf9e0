import BrokerRpc.Proofs.Session.Stopped

/-! # What frames tell

A frame counts by the session that it finds: whether the broker has confirmed it, which channels are
subscribed, and whether a receipt is awaited. Of frames in a row each counts by what the ones before
it leave. What callers do, how dials end and what wires do tells no channel anything.
-/
namespace BrokerRpc.Client

/-! ## Frames in their order -/

/-- What a frame tells, and whom, if its destination is the channel of somebody. -/
def addressed? (channels : Assoc String Channel) (m : Message) : Option (Recipient × Delivery) :=
  let tell (delivery : Delivery) :=
    ((m.field? .destination).bind channels.get?).map fun channel => (channel.recipient, delivery)
  match m.command with
  | .message => tell (.message m.content)
  | .error => tell (.error m.headers m.content)
  | _ => none

def told? (c : Client) (m : Message) : Option (Recipient × Delivery) :=
  if c.isConnected then addressed? c.session.channels m else none

def isUpAfter (c : Client) (earlier : List Message) : Bool :=
  c.isConnected || (c.session.handshake = .pending && earlier.any (·.command = .connected))

def isReceiptFor (token : String) (m : Message) : Bool :=
  m.command = .receipt && m.field? .receiptId = some token

def confirmed? (c : Client) (m : Message) : Option String :=
  c.session.receipt.filter (isReceiptFor · m)

def receiptsIn (effects : List Effect) : List String :=
  effects.filterMap fun e =>
    match e with
    | .receipt token => some token
    | _ => none

@[simp] theorem receiptsIn_append (first rest : List Effect) :
    receiptsIn (first ++ rest) = receiptsIn first ++ receiptsIn rest := List.filterMap_append

def isNews : Effect → Bool
  | .deliver .. => true
  | .receipt _ => true
  | _ => false

def Mute (effects : List Effect) : Prop := ∀ e ∈ effects, isNews e = false

theorem Mute.nil : Mute [] := fun _ h => absurd h List.not_mem_nil

theorem Mute.append {first rest : List Effect} (h : Mute first) (h' : Mute rest) :
    Mute (first ++ rest) := fun e he => (List.mem_append.mp he).elim (h e) (h' e)

theorem Mute.untold {effects : List Effect} (h : Mute effects) :
    deliveriesIn effects = [] ∧ receiptsIn effects = [] := by
  constructor <;>
  · refine List.filterMap_eq_nil_iff.mpr fun e he => ?_
    have := h e he
    cases e <;> first | rfl | cases this

theorem mute_dialEffects (dials : Bool) : Mute (dialEffects dials) := by
  cases dials <;> simp [Mute, dialEffects, isNews]

theorem mute_settle (waiters : List Waiter) (result : Except Failure Unit) :
    Mute (settle waiters result) := by
  simp [Mute, settle, isNews]

theorem mute_linkSettled (resolutions : List Resolution) : Mute (resolutions.map .linkSettled) := by
  simp [Mute, isNews]

/-- A step that comes of no frame: it tells of none, and the receipt that is awaited stays. -/
structure Apart (c c' : Client) (effects : List Effect) : Prop where
  receipt_eq : c'.session.receipt = c.session.receipt
  mute : Mute effects

theorem Apart.refl (c : Client) : Apart c c [] := ⟨rfl, .nil⟩

theorem Apart.trans {c c' c'' : Client} {first rest : List Effect} (h : Apart c c' first)
    (h' : Apart c' c'' rest) : Apart c c'' (first ++ rest) :=
  ⟨h'.receipt_eq.trans h.receipt_eq, h.mute.append h'.mute⟩

/-! ## Steps that come of no frame -/

theorem onLink_spec (c : Client) (result : Except Failure (Link × Bool)) :
    (c.onLink result).1.session = c.session ∧ Mute (c.onLink result).2.1 := by
  cases result with
  | ok opened => exact ⟨rfl, mute_dialEffects opened.2⟩
  | error _ => exact ⟨rfl, .nil⟩

theorem write_spec (c : Client) (m : Message) :
    (c.write m).1.session = c.session ∧ Mute (c.write m).2.1 := onLink_spec c _

theorem writeEach_spec (c : Client) (frames : List Message) :
    (c.writeEach frames).1.session = c.session ∧ Mute (c.writeEach frames).2 := by
  induction frames generalizing c with
  | nil => exact ⟨rfl, .nil⟩
  | cons m rest ih =>
    obtain ⟨hsession, hmute⟩ := write_spec c m
    unfold writeEach
    split
    · rename_i c' effects he
      rw [he] at hsession hmute
      obtain ⟨hrest, hmore⟩ := ih c'
      exact ⟨hrest.trans hsession, hmute.append hmore⟩
    · rename_i c' effects failure he
      rw [he] at hsession hmute
      exact ⟨hsession, hmute⟩

theorem receipt_park (s : Session) (m : Message) (collapse : Bool) :
    (s.park m collapse).receipt = s.receipt := by
  unfold Session.park
  split <;> rfl

theorem apart_submit (c : Client) (m : Message) (collapse : Bool) :
    Apart c (c.submit m collapse).1 (c.submit m collapse).2.1 := by
  unfold submit
  split
  · obtain ⟨hsession, hmute⟩ := write_spec c m
    exact ⟨congrArg Session.receipt hsession, hmute⟩
  · obtain ⟨hsession, hmute⟩ :=
      onLink_spec { c with session := c.session.park m collapse } c.link.reconnect
    exact ⟨(congrArg Session.receipt hsession).trans (receipt_park c.session m collapse), hmute⟩

theorem apart_write (c : Client) {session : Session} (h : session.receipt = c.session.receipt)
    (m : Message) :
    Apart c ({ c with session }.write m).1 ({ c with session }.write m).2.1 := by
  obtain ⟨hsession, hmute⟩ := write_spec { c with session } m
  exact ⟨(congrArg Session.receipt hsession).trans h, hmute⟩

theorem apart_onLost? (c : Client) (failure : Option Failure) :
    Apart c (c.onLost? failure).1 (c.onLost? failure).2 := by
  cases failure with
  | none => exact .refl c
  | some failure =>
    exact ⟨rfl, (mute_settle _ _).append (by simp [Mute, isNews])⟩

theorem apart_onWire (c : Client) (step : Link × Option Failure) :
    Apart c (c.onWire step).1 (c.onWire step).2 :=
  (⟨rfl, .nil⟩ : Apart c { c with link := step.1 } []).trans (apart_onLost? _ step.2)

theorem apart_dialEnded (c : Client) (result : Except Failure Unit) :
    Apart c (c.dialEnded result).1 (c.dialEnded result).2 := by
  cases result with
  | ok _ => exact ⟨rfl, mute_linkSettled _⟩
  | error failure =>
    have hlost := apart_onLost? { c with link := (c.link.dialFailed failure).1 }
      (if (c.link.dialFailed failure).2.2 then some failure else none)
    exact ⟨hlost.receipt_eq, (mute_linkSettled _).append hlost.mute⟩

theorem apart_act (c : Client) {operation : Operation} (h : ∀ g m, operation ≠ .frame g m) :
    Apart c (c.act operation).1 (c.act operation).2 := by
  cases operation with
  | subscribe destination token recipient =>
    simp only [act, subscribe]
    split
    · exact .refl c
    · split
      · exact apart_write c (by rfl) _
      · exact ⟨rfl, .nil⟩
  | unsubscribe destination =>
    simp only [act, unsubscribe]
    split
    · exact .refl c
    · split
      · exact apart_write c (by rfl) _
      · exact ⟨rfl, .nil⟩
  | send destination payload => exact apart_submit c _ _
  | resend destination payload => exact apart_submit c _ _
  | begin token =>
    have hsubmit := apart_submit c (Session.beginFrame token) false
    simp only [act, begin]
    split
    · exact .refl c
    · generalize c.submit (Session.beginFrame token) false = submitted at hsubmit
      obtain ⟨c', effects, result⟩ := submitted
      cases result with
      | ok _ => exact ⟨hsubmit.receipt_eq, hsubmit.mute⟩
      | error _ => exact hsubmit
  | commit =>
    simp only [act, commit]
    split
    · exact .refl c
    · have hsubmit := apart_submit { c with session := { c.session with transaction := none } }
      exact ⟨(hsubmit _ _).receipt_eq, (hsubmit _ _).mute⟩
  | await => exact ⟨rfl, .nil⟩
  | leave w => exact ⟨rfl, .nil⟩
  | dial =>
    simp only [act, openLink]
    split
    · exact ⟨rfl, .nil⟩
    · exact ⟨rfl, mute_dialEffects _⟩
  | dialEnded result => exact apart_dialEnded c result
  | frame g m => exact absurd rfl (h g m)
  | piece g now bytes => exact ⟨rfl, .nil⟩
  | carryOut g now => exact apart_onWire c _
  | tick g now => exact ⟨rfl, .nil⟩
  | expire g now => exact apart_onWire c _
  | fail g failure => exact apart_onWire c _

/-! ## One frame -/

/-- Of the session a confirmation changes the handshake, those who wait, and what is parked, and
only if it is awaited. -/
theorem onConnected_spec (c : Client) (m : Message) :
    (c.onConnected m).1.session =
        (if c.session.handshake = .pending then c.session.confirmed else c.session) ∧
      Mute (c.onConnected m).2 := by
  generalize hpair : settledHeartbeats c.link.policy m = pair
  obtain ⟨outgoing, incoming⟩ := pair
  by_cases hpending : c.session.handshake = .pending
  · obtain ⟨hsession, hmute⟩ := writeEach_spec
      { c with link := c.link.setHeartbeats outgoing incoming, session := c.session.confirmed }
      c.session.flushFrames
    simp only [onConnected, hpair, hpending, if_true]
    exact ⟨hsession, hmute.append (mute_settle _ _)⟩
  · simp only [onConnected, hpair, hpending, if_false]
    exact ⟨trivial, .nil⟩

theorem told?_of_unaddressed {c : Client} {m : Message}
    (h : addressed? c.session.channels m = none) : c.told? m = none := by
  rw [told?, h, ite_self]

theorem receipt_of_unawaited {c : Client} {m : Message}
    (h : ∀ token, c.session.receipt = some token → isReceiptFor token m = false) :
    (c.session.receipt.filter fun t => !isReceiptFor t m) = c.session.receipt ∧
      c.confirmed? m = none := by
  rw [confirmed?]
  cases hawaited : c.session.receipt with
  | none => exact ⟨rfl, rfl⟩
  | some token => simp [Option.filter, h token hawaited]

theorem isReceiptFor_of_ne {m : Message} (h : m.command ≠ .receipt) (token : String) :
    isReceiptFor token m = false := by
  simp [isReceiptFor, h]

/-- What one frame does: a message or an error is told to the recipient of its channel, a receipt is
confirmed if it is awaited, and only a confirmation of the session changes more than the receipt. -/
structure Handles (c : Client) (m : Message) (c' : Client) (effects : List Effect) : Prop where
  receipt_eq : c'.session.receipt = c.session.receipt.filter fun t => !isReceiptFor t m
  rest_eq : m.command ≠ .connected →
    c' = { c with session := { c.session with receipt := c'.session.receipt } }
  told : deliveriesIn effects = (c.told? m).toList
  confirmed : receiptsIn effects = (c.confirmed? m).toList

theorem handles_of_told {c : Client} {m : Message} {r : Option Recipient} {d : Delivery}
    (hmiss : ∀ token, c.session.receipt = some token → isReceiptFor token m = false)
    (htold : c.told? m = r.map fun recipient => (recipient, d)) :
    Handles c m c (r.map fun recipient => Effect.deliver recipient d).toList := by
  obtain ⟨hkept, hnone⟩ := receipt_of_unawaited hmiss
  refine ⟨hkept.symm, fun _ => rfl, ?_, ?_⟩
  · rw [htold]
    cases r <;> rfl
  · rw [hnone]
    cases r <;> rfl

theorem handles_nothing {c : Client} {m : Message}
    (hother : addressed? c.session.channels m = none)
    (hmiss : ∀ token, c.session.receipt = some token → isReceiptFor token m = false) :
    Handles c m c [] :=
  handles_of_told (r := none) (d := .message m.content) hmiss (told?_of_unaddressed hother)

theorem told?_eq {c : Client} {m : Message} {delivery : Delivery}
    (h : addressed? c.session.channels m =
      ((m.field? .destination).bind c.session.channels.get?).map fun channel =>
        (channel.recipient, delivery)) :
    c.told? m = (c.session.recipientFor? m).map fun r => (r, delivery) := by
  rw [told?, h, Session.recipientFor?, isConnected]
  by_cases hup : c.session.handshake = .connected
  · simp only [hup, decide_true, if_true]
    cases m.field? .destination with
    | none => rfl
    | some destination =>
      cases hchannel : c.session.channels.get? destination <;> simp [hchannel]
  · simp [hup]

theorem handles_receipt {c : Client} {m : Message} (hcommand : m.command = .receipt) :
    Handles c m (c.onReceipt m).1 (c.onReceipt m).2 := by
  have hother : addressed? c.session.channels m = none := by simp [addressed?, hcommand]
  have hmatch : ∀ token, isReceiptFor token m = decide (m.field? .receiptId = some token) := by
    simp [isReceiptFor, hcommand]
  unfold onReceipt
  split
  · rename_i token id hawaited hid
    split
    · rename_i he
      subst he
      refine ⟨?_, fun _ => rfl, ?_, ?_⟩
      · simp [hawaited, hmatch, hid, Option.filter]
      · rw [told?_of_unaddressed hother]
        rfl
      · simp [receiptsIn, confirmed?, hawaited, hmatch, hid, Option.filter]
    · rename_i hne
      refine handles_nothing hother fun other hother => ?_
      obtain rfl := Option.some.inj (hawaited.symm.trans hother)
      simp [hmatch, hid, Ne.symm hne]
  · rename_i hno
    refine handles_nothing hother fun token hawaited => ?_
    rw [hmatch]
    exact decide_eq_false fun hid => hno token token hawaited hid

theorem onMessage_handles (c : Client) (m : Message) :
    Handles c m (c.onMessage m).1 (c.onMessage m).2 := by
  by_cases hcommand : m.command = .receipt
  · rw [onMessage, hcommand]
    exact handles_receipt hcommand
  have hmiss : ∀ token, c.session.receipt = some token → isReceiptFor token m = false :=
    fun token _ => isReceiptFor_of_ne hcommand token
  cases hother : m.command with
  | receipt => exact absurd hother hcommand
  | connected =>
    obtain ⟨hsession, hmute⟩ := onConnected_spec c m
    obtain ⟨hkept, hnone⟩ := receipt_of_unawaited hmiss
    rw [onMessage, hother]
    refine ⟨?_, fun h => absurd hother h, ?_, ?_⟩
    · rw [hkept, hsession]
      split <;> rfl
    · rw [hmute.untold.1, told?_of_unaddressed (by simp [addressed?, hother])]
      rfl
    · rw [hmute.untold.2, hnone]
      rfl
  | message =>
    rw [onMessage, hother]
    exact handles_of_told hmiss (told?_eq (by simp [addressed?, hother]))
  | error =>
    rw [onMessage, hother]
    exact handles_of_told hmiss (told?_eq (by simp [addressed?, hother]))
  | _ =>
    rw [onMessage, hother]
    exact handles_nothing (by simp [addressed?, hother]) hmiss

/-! ## Frames in a row -/

theorem session_onMessage_of_connected {c : Client} {m : Message} (h : m.command = .connected) :
    (c.onMessage m).1.session =
      if c.session.handshake = .pending then c.session.confirmed else c.session := by
  have hmessage : c.onMessage m = c.onConnected m := by simp only [onMessage, h]
  rw [hmessage, (onConnected_spec c m).1]

theorem channels_onMessage (c : Client) (m : Message) :
    (c.onMessage m).1.session.channels = c.session.channels := by
  by_cases hcommand : m.command = .connected
  · rw [session_onMessage_of_connected hcommand]
    split <;> rfl
  · rw [(onMessage_handles c m).rest_eq hcommand]

theorem isUpAfter_nil (c : Client) : c.isUpAfter [] = c.isConnected := by simp [isUpAfter]

theorem isUpAfter_cons (c : Client) (m : Message) (earlier : List Message) :
    c.isUpAfter (m :: earlier) = (c.onMessage m).1.isUpAfter earlier := by
  by_cases hcommand : m.command = .connected
  · simp only [isUpAfter, isConnected, session_onMessage_of_connected hcommand]
    cases hhandshake : c.session.handshake <;> simp [Session.confirmed, hhandshake, hcommand]
  · have hhandshake : (c.onMessage m).1.session.handshake = c.session.handshake := by
      rw [(onMessage_handles c m).rest_eq hcommand]
    simp [isUpAfter, isConnected, hhandshake, hcommand]

theorem isConnected_onMessages (c : Client) (ms : List Message) :
    (c.onMessages ms).1.isConnected = c.isUpAfter ms ∧
      (c.onMessages ms).1.session.channels = c.session.channels := by
  induction ms generalizing c with
  | nil => exact ⟨c.isUpAfter_nil.symm, rfl⟩
  | cons m rest ih =>
    obtain ⟨hup, hchannels⟩ := ih (c.onMessage m).1
    rw [isUpAfter_cons]
    exact ⟨hup, hchannels.trans (channels_onMessage c m)⟩

/-- Frames in a row, each with the client that it finds. -/
def finding (c : Client) : List Message → List (Client × Message)
  | [] => []
  | m :: rest => (c, m) :: (c.onMessage m).1.finding rest

theorem told_onMessages (c : Client) (ms : List Message) :
    deliveriesIn (c.onMessages ms).2 = (c.finding ms).filterMap (fun x => x.1.told? x.2) ∧
      receiptsIn (c.onMessages ms).2 = (c.finding ms).filterMap (fun x => x.1.confirmed? x.2) := by
  induction ms generalizing c with
  | nil => exact ⟨rfl, rfl⟩
  | cons m rest ih =>
    have hfirst := onMessage_handles c m
    obtain ⟨htold, hconfirmed⟩ := ih (c.onMessage m).1
    have hstep : (c.onMessages (m :: rest)).2 =
        (c.onMessage m).2 ++ ((c.onMessage m).1.onMessages rest).2 := rfl
    rw [hstep, deliveriesIn_append, receiptsIn_append, hfirst.told, hfirst.confirmed, htold,
      hconfirmed, finding, List.filterMap_cons, List.filterMap_cons]
    constructor
    · cases c.told? m <;> rfl
    · cases c.confirmed? m <;> rfl

/-- Of some frames in a row the first receipt with the awaited token is confirmed, and no other. -/
structure Takes (c : Client) (ms : List Message) (c' : Client) (effects : List Effect) : Prop where
  receipt_eq : c'.session.receipt = c.session.receipt.filter fun t => !ms.any (isReceiptFor t)
  confirmed : receiptsIn effects =
    (c.session.receipt.filter fun t => ms.any (isReceiptFor t)).toList

theorem Apart.takes {c c' : Client} {effects : List Effect} (h : Apart c c' effects) :
    Takes c [] c' effects := by
  constructor
  · rw [h.receipt_eq]
    cases c.session.receipt <;> rfl
  · rw [h.mute.untold.2]
    cases c.session.receipt <;> rfl

theorem Takes.apart {c c' c'' : Client} {ms : List Message} {first rest : List Effect}
    (h : Takes c ms c' first) (h' : Apart c' c'' rest) : Takes c ms c'' (first ++ rest) := by
  refine ⟨h'.receipt_eq.trans h.receipt_eq, ?_⟩
  rw [receiptsIn_append, h'.mute.untold.2, List.append_nil, h.confirmed]

theorem takes_onMessages (c : Client) (ms : List Message) :
    Takes c ms (c.onMessages ms).1 (c.onMessages ms).2 := by
  induction ms generalizing c with
  | nil => exact (Apart.refl c).takes
  | cons m rest ih =>
    have hfirst := onMessage_handles c m
    have hrest := ih (c.onMessage m).1
    have hstep : (c.onMessages (m :: rest)).2 =
        (c.onMessage m).2 ++ ((c.onMessage m).1.onMessages rest).2 := rfl
    have hend : (c.onMessages (m :: rest)).1 = ((c.onMessage m).1.onMessages rest).1 := rfl
    constructor
    · rw [hend, hrest.receipt_eq, hfirst.receipt_eq]
      cases c.session.receipt with
      | none => rfl
      | some token => cases hm : isReceiptFor token m <;> simp [Option.filter, hm]
    · rw [hstep, receiptsIn_append, hfirst.confirmed, hrest.confirmed, hfirst.receipt_eq, confirmed?]
      cases c.session.receipt with
      | none => rfl
      | some token => cases hm : isReceiptFor token m <;> simp [Option.filter, hm]

end BrokerRpc.Client
