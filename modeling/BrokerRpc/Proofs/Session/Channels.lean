import BrokerRpc.Proofs.Session.Discipline
import BrokerRpc.Proofs.Session.Broker

/-! # Channels and the broker's view of them

Whenever there is a session, what the broker makes of the frames on the connection are the channels.
Tokens are fresh: the tokens of the subscriptions of a run differ.
-/
namespace BrokerRpc.Client

open Broker

def Moment.issues? (m : Moment) : Option String :=
  match m.operation with
  | .subscribe destination token _ =>
    if m.before.session.channels.contains destination then none else some token
  | _ => none

def issuedIn (moments : List Moment) : List String := moments.filterMap (·.issues?)

def channelTokens (channels : Assoc String Channel) : List String := channels.map fun e => e.2.token

/-- What holds of the channels, of what is parked and of all that connections were given, when only
the given tokens were given out. -/
structure Agrees (x : Site) (p : Phase) (issued : List String) : Prop where
  tokens_issued : ∀ token ∈ channelTokens x.session.channels, token ∈ issued
  tokens_nodup : (channelTokens x.session.channels).Nodup
  sent_issued : ∀ g token, token ∉ issued → (x.link.sent g).countP (subscribes token) = 0
  outbox_plain : ∀ m ∈ x.session.outbox, Plain m
  greeted : ∀ g, p = .greeted g → ∀ m ∈ x.link.sent g, Plain m
  confirmed : ∀ g, p = .confirmed g → Knows (x.link.sent g) x.session.channels
  announced : ∀ g, Announced (x.link.sent g)

theorem agrees_start (host : String) (port : Nat) (policy : Policy) (timeout : Duration) :
    Agrees (.start host port policy timeout) .closed [] where
  tokens_issued := fun _ h => absurd h List.not_mem_nil
  tokens_nodup := List.nodup_nil
  sent_issued := fun _ _ _ => rfl
  outbox_plain := fun _ h => absurd h List.not_mem_nil
  greeted := fun _ h => by cases h
  confirmed := fun _ h => by cases h
  announced := fun _ => announced_nil

variable {m : Moment} {p q : Phase} {g : Nat} {issued : List String}

inductive Touches (m : Moment) : Prop where
  | none (hchannels : channelsAfter m.before.session m.operation = m.before.session.channels)
      (hissues : m.issues? = Option.none)
      (hplain : ∀ frame, submission? m.before.session m.operation = some frame → Plain frame)
  | adds (destination : String) (channel : Channel)
      (hchannels : channelsAfter m.before.session m.operation =
        m.before.session.channels ++ [(destination, channel)])
      (hissues : m.issues? = some channel.token)
      (hasked : submission? m.before.session m.operation =
        some (Session.subscribeFrame destination channel.token))
  | removes (destination : String) (channel : Channel)
      (hget : m.before.session.channels.get? destination = some channel)
      (hchannels : channelsAfter m.before.session m.operation =
        m.before.session.channels.erase destination)
      (hissues : m.issues? = Option.none)
      (hasked : submission? m.before.session m.operation =
        some (Session.unsubscribeFrame channel.token))

theorem plain_sendFrame (destination : String) (transaction : Option String) (payload : Bytes) :
    Plain (Session.sendFrame destination transaction payload) := by
  have hcommand : (Session.sendFrame destination transaction payload).command = .send := by
    cases transaction <;> rfl
  rw [Plain, hcommand]
  decide

theorem plain_beginFrame (token : String) : Plain (Session.beginFrame token) := by
  have hcommand : (Session.beginFrame token).command = .begin := rfl
  rw [Plain, hcommand]
  decide

theorem plain_commitFrame (token : String) : Plain (Session.commitFrame token) := by
  have hcommand : (Session.commitFrame token).command = .commit := rfl
  rw [Plain, hcommand]
  decide

theorem plain_of_asked {s : Session} {operation : Operation} {frame : Message}
    (hsubscribe : ∀ destination token recipient, operation ≠ .subscribe destination token recipient)
    (hunsubscribe : ∀ destination, operation ≠ .unsubscribe destination)
    (h : submission? s operation = some frame) : Plain frame := by
  unfold submission? at h
  split at h
  · exact absurd rfl (hsubscribe _ _ _)
  · exact absurd rfl (hunsubscribe _)
  · exact Option.some.inj h ▸ plain_sendFrame _ _ _
  · exact Option.some.inj h ▸ plain_sendFrame _ _ _
  · split at h
    · cases h
    · exact Option.some.inj h ▸ plain_beginFrame _
  · obtain ⟨id, _, rfl⟩ := Option.map_eq_some_iff.mp h
    exact plain_commitFrame id
  · cases h

/-- What is parked is what was asked for, and concerns no subscription. -/
theorem plain_of_parked {s : Session} {operation : Operation} {frame : Message}
    (h : parked? s operation = some frame) : Plain frame := by
  unfold parked? at h
  split at h
  · cases h
  · cases h
  · dsimp only at h
    split at h
    · cases h
    · exact Option.some.inj h ▸ plain_sendFrame _ _ _
  · rename_i hsubscribe hunsubscribe _
    exact plain_of_asked hsubscribe hunsubscribe h

theorem Moment.touches (m : Moment) : Touches m := by
  obtain ⟨x, operation⟩ := m
  by_cases hsubscribe : ∃ destination token recipient,
      operation = .subscribe destination token recipient
  · obtain ⟨destination, token, recipient, rfl⟩ := hsubscribe
    cases hc : x.session.channels.contains destination with
    | true =>
      refine .none (by simp [channelsAfter, hc]) (by simp [issues?, hc]) ?_
      intro frame hasked
      simp [submission?, hc] at hasked
    | false =>
      exact .adds destination ⟨token, recipient⟩ (by simp [channelsAfter, hc])
        (by simp [issues?, hc]) (by simp [submission?, hc])
  · by_cases hunsubscribe : ∃ destination, operation = .unsubscribe destination
    · obtain ⟨destination, rfl⟩ := hunsubscribe
      cases hget : x.session.channels.get? destination with
      | none =>
        have hasked : submission? x.session (.unsubscribe destination) = none := by
          simp [submission?, hget]
        refine .none (channelsAfter_of_none hasked) rfl ?_
        intro frame hframe
        rw [hasked] at hframe
        cases hframe
      | some channel =>
        exact .removes destination channel hget rfl rfl (by simp [submission?, hget])
    · have hs : ∀ destination token recipient,
          operation ≠ .subscribe destination token recipient :=
        fun destination token recipient h => hsubscribe ⟨destination, token, recipient, h⟩
      have hu : ∀ destination, operation ≠ .unsubscribe destination :=
        fun destination h => hunsubscribe ⟨destination, h⟩
      refine .none ?_ ?_ fun frame hasked => plain_of_asked hs hu hasked
      · unfold channelsAfter
        split
        · exact absurd ‹_› (hs _ _ _)
        · exact absurd ‹_› (hu _)
        · rfl
      · unfold issues?
        split
        · exact absurd ‹_› (hs _ _ _)
        · rfl

theorem Agrees.tokens_after (h : Agrees m.before p issued)
    (hfresh : ∀ token, m.issues? = some token → token ∉ issued) :
    (∀ token ∈ channelTokens (channelsAfter m.before.session m.operation),
        token ∈ issued ++ m.issues?.toList) ∧
      (channelTokens (channelsAfter m.before.session m.operation)).Nodup := by
  cases m.touches with
  | none hchannels hissues _ =>
    rw [hchannels, hissues, Option.toList_none, List.append_nil]
    exact ⟨h.tokens_issued, h.tokens_nodup⟩
  | adds destination channel hchannels hissues _ =>
    have hnew : channel.token ∉ channelTokens m.before.session.channels :=
      fun hmem => hfresh _ hissues (h.tokens_issued _ hmem)
    rw [hchannels, hissues, Option.toList_some, channelTokens, List.map_append]
    refine ⟨?_, ?_⟩
    · intro token hmem
      rcases List.mem_append.mp hmem with hmem | hmem
      · exact List.mem_append_left _ (h.tokens_issued token hmem)
      · exact List.mem_append_right _ hmem
    · rw [List.nodup_append]
      refine ⟨h.tokens_nodup, by simp, ?_⟩
      rintro token hmem other hother rfl
      simp only [List.map_cons, List.map_nil, List.mem_singleton] at hother
      exact hnew (hother ▸ hmem)
  | removes destination channel _ hchannels hissues _ =>
    have hsub : (channelTokens (m.before.session.channels.erase destination)).Sublist
        (channelTokens m.before.session.channels) := List.filter_sublist.map _
    rw [hchannels, hissues, Option.toList_none, List.append_nil]
    exact ⟨fun token hmem => h.tokens_issued token (hsub.subset hmem), hsub.nodup h.tokens_nodup⟩

theorem Agrees.wrote {i : Nat} {frame : Message} (h : Agrees m.before (.confirmed i) issued)
    (hdistinct : m.before.session.channels.Distinct)
    (hfresh : ∀ token, m.issues? = some token → token ∉ issued)
    (hasked : submission? m.before.session m.operation = some frame) :
    (∀ token ∉ issued ++ m.issues?.toList, subscribes token frame = false) ∧
      Announced (m.before.link.sent i ++ [frame]) ∧
      Knows (m.before.link.sent i ++ [frame]) (channelsAfter m.before.session m.operation) := by
  have hknows := h.confirmed i rfl
  have hannounced := h.announced i
  cases m.touches with
  | none hchannels _ hplain =>
    have hframe := hplain frame hasked
    rw [hchannels]
    refine ⟨fun token _ => subscribes_of_plain hframe token, announced_append hannounced ?_,
      hknows.append_plain hframe⟩
    intro f hf
    exact List.mem_singleton.mp hf ▸ hframe.2
  | adds destination channel hchannels hissues hframe =>
    rw [hasked, Option.some.injEq] at hframe
    subst hframe
    have hnew := hfresh _ hissues
    rw [hchannels, hissues]
    refine ⟨?_, announced_append hannounced ?_, hknows.append_subscribe ?_ ?_⟩
    · intro token htoken
      have hne : channel.token ≠ token := fun e => htoken (by simp [e])
      rw [subscribes_subscribeFrame, decide_eq_false hne]
    · intro f hf
      have hcommand : f.command = .subscribe := by rw [List.mem_singleton.mp hf]; rfl
      rw [hcommand]
      decide
    · exact h.sent_issued i _ hnew
    · intro e he htoken
      exact hnew (h.tokens_issued _ (List.mem_map.mpr ⟨e, he, htoken⟩))
  | removes destination channel hget hchannels _ hframe =>
    rw [hasked, Option.some.injEq] at hframe
    subst hframe
    have hmem : (destination, channel) ∈ m.before.session.channels :=
      (Assoc.mem_iff_get? hdistinct).mpr hget
    have honce := hknows.once _ hmem
    have hany : (m.before.link.sent i).any (subscribes channel.token) = true := by
      rw [List.any_eq_true]
      exact List.countP_pos_iff.mp (by rw [honce]; exact Nat.one_pos)
    rw [hchannels]
    exact ⟨fun token _ => subscribes_unsubscribeFrame _ token,
      announced_unsubscribeFrame hannounced hany,
      hknows.append_unsubscribe hdistinct h.tokens_nodup hget⟩

theorem Agrees.of_same {x y : Site} (h : Agrees x p issued)
    (hsent : ∀ g, y.link.sent g = x.link.sent g) (hkeeps : Keeps x.session y.session)
    (hphase : ∀ g, q.connection? = some g → q = p) : Agrees y q issued where
  tokens_issued := hkeeps.channels_eq ▸ h.tokens_issued
  tokens_nodup := hkeeps.channels_eq ▸ h.tokens_nodup
  sent_issued := fun g token htoken => hsent g ▸ h.sent_issued g token htoken
  outbox_plain := hkeeps.outbox_eq ▸ h.outbox_plain
  greeted := by
    rintro g rfl
    rw [hsent]
    exact h.greeted g (hphase g rfl).symm
  confirmed := by
    rintro g rfl
    rw [hsent, hkeeps.channels_eq]
    exact h.confirmed g (hphase g rfl).symm
  announced := fun g => hsent g ▸ h.announced g

theorem issues?_of_none (h : submission? m.before.session m.operation = none) :
    m.issues? = none := by
  cases m.touches with
  | none _ hissues _ => exact hissues
  | adds _ _ _ _ hasked =>
    rw [h] at hasked
    cases hasked
  | removes _ _ _ _ hissues _ => exact hissues

theorem Agrees.held (h : Agrees m.before p issued)
    (hfresh : ∀ token, m.issues? = some token → token ∉ issued)
    (hchannels : m.after.session.channels = channelsAfter m.before.session m.operation)
    (houtbox : m.after.session.outbox = newest
      (m.before.session.outbox ++ (parked? m.before.session m.operation).toList))
    (hsent : ∀ g, m.after.link.sent g = m.before.link.sent g) (hdown : ∀ i, p ≠ .confirmed i)
    (hdrifts : p.Drifts q) : Agrees m.after q (issued ++ m.issues?.toList) := by
  obtain ⟨htokens, hnodup⟩ := h.tokens_after hfresh
  refine ⟨hchannels ▸ htokens, hchannels ▸ hnodup, ?_, ?_, ?_, ?_, fun g => hsent g ▸ h.announced g⟩
  · intro g token htoken
    rw [hsent]
    exact h.sent_issued g token fun hmem => htoken (List.mem_append_left _ hmem)
  · intro f hf
    rw [houtbox] at hf
    rcases List.mem_append.mp (List.mem_of_mem_drop hf) with hf | hf
    · exact h.outbox_plain f hf
    · exact plain_of_parked (Option.mem_toList.mp hf)
  · rintro g rfl
    rw [hsent]
    exact h.greeted g (hdrifts.eq_of_connection? rfl).symm
  · rintro g rfl
    exact absurd (hdrifts.eq_of_connection? rfl).symm (hdown g)

theorem Agrees.gives {i : Nat} {frames : List Message} (h : Agrees m.before p issued)
    (hgives : m.before.link.Gives i frames m.after.link)
    (hfresh : ∀ token, m.issues? = some token → token ∉ issued)
    (hchannels : m.after.session.channels = channelsAfter m.before.session m.operation)
    (houtbox : m.after.session.outbox = [])
    (htokens : ∀ token ∉ issued ++ m.issues?.toList, frames.countP (subscribes token) = 0)
    (hannounced : Announced (m.before.link.sent i ++ frames))
    (hknows : Knows (m.before.link.sent i ++ frames) (channelsAfter m.before.session m.operation)) :
    Agrees m.after (.confirmed i) (issued ++ m.issues?.toList) := by
  obtain ⟨hafter, hnodup⟩ := h.tokens_after hfresh
  refine ⟨hchannels ▸ hafter, hchannels ▸ hnodup, ?_, ?_, fun g hq => (by cases hq), ?_, ?_⟩
  · intro g token htoken
    have hold : (m.before.link.sent g).countP (subscribes token) = 0 :=
      h.sent_issued g token fun hmem => htoken (List.mem_append_left _ hmem)
    rw [hgives.sent_eq, List.countP_append, hold]
    split
    · rw [htokens token htoken]
    · rfl
  · rw [houtbox]
    exact fun f hf => absurd hf List.not_mem_nil
  · rintro g hq
    obtain rfl : i = g := by cases hq; rfl
    rw [hgives.sent_eq, if_pos rfl, hchannels]
    exact hknows
  · intro g
    rw [hgives.sent_eq]
    split
    · rename_i hg
      exact hg ▸ hannounced
    · rw [List.append_nil]
      exact h.announced g

theorem Agrees.confirms {i : Nat} (h : Agrees m.before (.greeted i) issued)
    (hissues : m.issues? = none)
    (hchannels : m.after.session.channels = m.before.session.channels)
    (hsame : channelsAfter m.before.session m.operation = m.before.session.channels)
    (houtbox : m.after.session.outbox = [])
    (hgives : m.before.link.Gives i m.before.session.flushFrames m.after.link) :
    Agrees m.after (.confirmed i) (issued ++ m.issues?.toList) := by
  have hgreeted := h.greeted i rfl
  have hfrom : ∀ f ∈ m.before.session.flushFrames, f.command ≠ .unsubscribe := by
    intro f hf
    rcases List.mem_append.mp hf with hf | hf
    · obtain ⟨e, _, rfl⟩ := List.mem_map.mp hf
      have hcommand : (Session.subscribeFrame e.1 e.2.token).command = .subscribe := rfl
      rw [hcommand]
      decide
    · exact (h.outbox_plain f hf).2
  refine h.gives hgives (by simp [hissues]) (hchannels.trans hsame.symm) houtbox ?_
    (announced_append (h.announced i) hfrom) ?_
  · intro token htoken
    have hnew : token ∉ channelTokens m.before.session.channels :=
      fun hmem => htoken (List.mem_append_left _ (h.tokens_issued token hmem))
    rw [Session.flushFrames, List.countP_append, countP_of_plain h.outbox_plain,
      countP_subscribeFrames]
    exact List.count_eq_zero.mpr hnew
  · rw [hsame]
    exact Knows.of_plain hgreeted h.tokens_nodup h.outbox_plain

theorem Agrees.opens (h : Agrees m.before .dialling issued)
    (hknown : ∀ g ∈ m.before.link.wires.keys, g ≤ m.before.link.generation)
    (hkeeps : Keeps m.before.session m.after.session)
    (hlink : m.before.link.Opens [m.greeting] m.after.link) :
    Agrees m.after (.greeted (m.before.link.generation + 1)) issued := by
  have hgreeting : Plain m.greeting := by
    have hcommand : m.greeting.command = .connect := rfl
    rw [Plain, hcommand]
    decide
  have hnew : m.before.link.sent (m.before.link.generation + 1) = [] := by
    refine Link.sent_of_not_mem fun hmem => ?_
    have hle := hknown _ hmem
    omega
  have hframe : ∀ g, ∀ f ∈ (if g = m.before.link.generation + 1 then [m.greeting] else []),
      Plain f := by
    intro g f hf
    split at hf
    · exact List.mem_singleton.mp hf ▸ hgreeting
    · exact absurd hf List.not_mem_nil
  refine ⟨hkeeps.channels_eq ▸ h.tokens_issued, hkeeps.channels_eq ▸ h.tokens_nodup, ?_,
    hkeeps.outbox_eq ▸ h.outbox_plain, ?_, fun g hq => (by cases hq), ?_⟩
  · intro g token htoken
    rw [hlink.sent_eq, List.countP_append, h.sent_issued g token htoken,
      countP_of_plain (hframe g)]
  · rintro g hq
    obtain rfl : m.before.link.generation + 1 = g := by cases hq; rfl
    rw [hlink.sent_eq, hnew, List.nil_append]
    exact hframe _
  · intro g
    rw [hlink.sent_eq]
    exact announced_append (h.announced g) fun f hf => (hframe g f hf).2

theorem Turn.agrees (t : Turn m p q) (h : InStep m.before p) (ha : Agrees m.before p issued)
    (hfresh : ∀ token, m.issues? = some token → token ∉ issued) :
    Agrees m.after q (issued ++ m.issues?.toList) := by
  cases t with
  | rested hasked _ _ hkeeps hgives _ hdrifts =>
    rw [issues?_of_none hasked, Option.toList_none, List.append_nil]
    refine ha.of_same ?_ hkeeps fun g hq => hdrifts.eq_of_connection? hq
    intro g
    rw [hgives.sent_eq]
    simp
  | held _ hdown hchannels houtbox hgives _ hdrifts =>
    refine ha.held hfresh hchannels houtbox ?_ hdown hdrifts
    intro g
    rw [hgives.sent_eq]
    simp
  | wrote hasked hchannels houtbox hgives _ =>
    obtain ⟨htokens, hannounced, hknows⟩ := ha.wrote h.channels_distinct hfresh hasked
    refine ha.gives hgives hfresh hchannels (houtbox.trans (h.outbox_confirmed _ rfl)) ?_ hannounced
      hknows
    intro token htoken
    simp [htokens token htoken]
  | opened hopens hkeeps hlink _ =>
    rw [issues?_of_none (submission?_of_opens hopens _), Option.toList_none, List.append_nil]
    exact ha.opens h.known hkeeps hlink
  | confirmed hconfirms hchannels houtbox hgives _ =>
    have hasked := submission?_of_confirms hconfirms m.before.session
    exact ha.confirms (issues?_of_none hasked) hchannels (channelsAfter_of_none hasked) houtbox
      hgives
  | lost hasked _ _ _ hkeeps hloses _ =>
    rw [issues?_of_none hasked, Option.toList_none, List.append_nil]
    exact ha.of_same hloses.sent_eq hkeeps fun g hq => by cases hq

/-- After any operations with fresh tokens a client is in step with its link, and the broker agrees
with it. -/
theorem agrees_reached {x : Site} (h : InStep x p) (ha : Agrees x p issued)
    (operations : List Operation) (hfresh : (issued ++ issuedIn (history x operations)).Nodup) :
    ∃ q, InStep (reached x operations) q ∧
      Agrees (reached x operations) q (issued ++ issuedIn (history x operations)) := by
  induction operations generalizing x p issued with
  | nil => exact ⟨p, h, by simpa [issuedIn, history, reached] using ha⟩
  | cons operation rest ih =>
    obtain ⟨q, t⟩ := perform_turn h operation
    have hissued : issued ++ issuedIn (history x (operation :: rest)) =
        (issued ++ (⟨x, operation⟩ : Moment).issues?.toList) ++
          issuedIn (history (x.perform operation) rest) := by
      rw [history, issuedIn, List.filterMap_cons, List.append_assoc]
      cases (⟨x, operation⟩ : Moment).issues? <;> rfl
    rw [hissued] at hfresh ⊢
    -- the token that is given out now is none of the earlier ones
    have hnew : ∀ token, (⟨x, operation⟩ : Moment).issues? = some token → token ∉ issued := by
      intro token htoken hmem
      have hnodup := (List.nodup_append.mp hfresh).1
      rw [htoken] at hnodup
      exact (List.nodup_append.mp hnodup).2.2 token hmem token List.mem_cons_self rfl
    exact ih (t.inStep h) (t.agrees h ha hnew) hfresh

theorem subscribe_of_mem {c : Client} {destination : String}
    (h : destination ∈ c.session.channels.keys) (token : String) (recipient : Recipient) :
    c.subscribe destination token recipient =
      (c, [], .error (.misuse (.alreadySubscribed destination))) := by
  have hc : c.session.channels.contains destination = true := Assoc.contains_iff_mem_keys.mpr h
  simp only [subscribe, hc, if_true]

theorem unsubscribe_of_not_mem {c : Client} {destination : String}
    (h : destination ∉ c.session.channels.keys) :
    c.unsubscribe destination = (c, [], .error (.misuse (.notSubscribed destination))) := by
  have hget : c.session.channels.get? destination = none := Assoc.get?_eq_none_iff.mpr h
  simp only [unsubscribe, hget]

/-- After any operations with fresh tokens: in a session, what a broker makes of the frames given to
the open connection are exactly the channels, each destination once, and each channel was subscribed
once on it. On no connection does the end of a subscription name a token that was not subscribed
before. A subscription of a destination that has one, and the end of one that is not there, are
refused as misuse and change nothing. -/
theorem replay_sent_eq_channels (host : String) (port : Nat) (policy : Policy)
    (timeout : Duration) (operations : List Operation)
    (hfresh : (issuedIn (history (.start host port policy timeout) operations)).Nodup) :
    let y := reached (.start host port policy timeout) operations
    (y.client.isConnected = true →
      ∃ g, y.link.state = .opened g ∧ y.link.isLive g = true ∧ y.session.channels.Distinct ∧
        replay (y.link.sent g) = tokens y.session.channels ∧
        ∀ e ∈ y.session.channels, (y.link.sent g).countP (subscribes e.2.token) = 1) ∧
    (∀ g, Announced (y.link.sent g)) ∧
    (∀ destination ∈ y.session.channels.keys, ∀ token recipient,
      y.client.subscribe destination token recipient =
        (y.client, [], .error (.misuse (.alreadySubscribed destination)))) ∧
    ∀ destination ∉ y.session.channels.keys,
      y.client.unsubscribe destination =
        (y.client, [], .error (.misuse (.notSubscribed destination))) := by
  intro y
  obtain ⟨q, hend, hagrees⟩ := agrees_reached (inStep_start host port policy timeout)
    (agrees_start host port policy timeout) operations hfresh
  refine ⟨?_, hagrees.announced, ?_, ?_⟩
  · intro hup
    obtain ⟨g, rfl⟩ := hend.isConnected_iff.mp hup
    have hknows := hagrees.confirmed g rfl
    exact ⟨g, hend.state_eq rfl, hend.isLive rfl, hend.channels_distinct, hknows.replay_eq,
      hknows.once⟩
  · intro destination hmem token recipient
    exact subscribe_of_mem hmem token recipient
  · intro destination hnot
    exact unsubscribe_of_not_mem hnot

/-- One channel ends and the other survives the loss of its connection; the first connection is
confirmed twice. -/
theorem replay_sent_eq_channels_reconnected :
    let confirmation := Message.new .connected
    let operations : List Operation :=
      [.subscribe "jobs" "t1" 1, .dial, .dialEnded (.ok ()), .frame 1 confirmation,
        .subscribe "news" "t2" 2, .frame 1 confirmation, .unsubscribe "jobs", .fail 1 .closed,
        .dial, .dialEnded (.ok ()), .frame 2 confirmation]
    let x := Site.start "broker" 61613 (.withRetry ⟨0⟩ 1 ⟨0⟩) ⟨0⟩
    let y := reached x operations
    (issuedIn (history x operations)).Nodup ∧ y.client.isConnected = true ∧
      replay (y.link.sent 2) = [("news", "t2")] ∧
      (y.link.sent 2).countP (subscribes "t2") = 1 ∧ Announced (y.link.sent 1) := by
  intro confirmation operations x y
  have hfresh : (issuedIn (history x operations)).Nodup := by decide
  have hup : y.client.isConnected = true := by decide
  have hstate : y.link.state = .opened 2 := by decide
  have hchannels : y.session.channels = [("news", ⟨"t2", 2⟩)] := by decide
  have hall := replay_sent_eq_channels "broker" 61613 (.withRetry ⟨0⟩ 1 ⟨0⟩) ⟨0⟩ operations hfresh
  have hy : reached (.start "broker" 61613 (.withRetry ⟨0⟩ 1 ⟨0⟩) ⟨0⟩) operations = y := rfl
  dsimp only at hall
  rw [hy] at hall
  clear_value y
  obtain ⟨hsession, hannounced, _⟩ := hall
  obtain ⟨g, hopen, _, _, hreplay, honce⟩ := hsession hup
  obtain rfl : 2 = g := by
    rw [hstate] at hopen
    cases hopen
    rfl
  rw [hchannels] at hreplay honce
  exact ⟨hfresh, hup, hreplay, honce _ List.mem_cons_self, hannounced 1⟩

end BrokerRpc.Client
