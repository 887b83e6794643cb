import Mathlib.Data.List.Forall2
import Obs2Mf.Pipe.Exchange
import Obs2Mf.Pipe.Slot

set_option autoImplicit false

/- What clients get: every delivered frame is one published frame, no older than
what was published when it was asked for, and never older than the one before. -/
namespace Obs2Mf.Pipe

open Run

variable {P C : Type}

/-- A reply formed from the slot for a request that was sent when `since` calls of
`Publish` had returned. `early` says whether it may predate the first of them. -/
structure Formed (early : Prop) (published : List Frame) (completed since : Nat)
    (hdr : FrameHeader) (data : List Byte) : Prop where
  sized : hdr.byteLength.toNat = data.length
  origin : early ∧ hdr = .zero ∧ data = [] ∨
    ∃ index f, published[index]? = some f ∧ hdr = f.hdr.stamped ∧ data = f.payload ∧
      since ≤ index + 1 ∧ index < completed

/-- What was delivered is the frame of one `Publish` call, header and payload, and
that call took the lock no earlier than the last one that had returned when the
request was sent. -/
structure Delivery.Of (published : List Frame) (d : Delivery) (index : Nat) : Prop where
  frame : ∃ f, published[index]? = some f ∧ d.hdr = f.hdr.stamped ∧ d.payload = f.payload
  sized : d.hdr.byteLength.toNat = d.payload.length
  recent : d.since ≤ index + 1

/-- The deliveries of one client, by the indices of the `Publish` calls they come from. -/
structure Explained (published : List Frame) (completed : Nat) (client : Client)
    (indices : List Nat) : Prop where
  frames : List.Forall₂ (Delivery.Of published) client.log indices
  ordered : indices.Pairwise (· ≤ ·)
  past : ∀ index ∈ indices, index < completed
  before : client.pc.asked = true → ∀ index ∈ indices, index < client.since

structure Served (early : Prop) (s : State P C) (c : C) : Prop where
  exchange : ∀ i, (s.clients c).pipe = some i →
    Exchange (Formed early s.published s.completed (s.clients c).since) (s.conns i) (s.clients c).pc
  resting : (s.clients c).pipe = none → (s.clients c).pc = .idle
  since : (s.clients c).since ≤ s.completed
  explained : ∃ indices, Explained s.published s.completed (s.clients c) indices

/-- The invariant of the transport. -/
structure Delivering (early : Prop) (s : State P C) : Prop where
  instances : Instances s
  slot : Slot s
  served : ∀ c, Served early s c

theorem delivering_initial (early : Prop) : Delivering early (State.initial P C) where
  instances := instances_initial
  slot := slot_initial
  served := fun _ =>
    { exchange := nofun
      resting := fun _ => rfl
      since := Nat.le_refl 0
      explained := ⟨[], .nil, .nil, nofun, nofun⟩ }

section Growth

variable {early : Prop} {published : List Frame} {completed : Nat}

theorem published_stays {more : List Frame} {index : Nat} {f : Frame}
    (there : published[index]? = some f) : (published ++ more)[index]? = some f := by
  have inside : index < published.length := (List.getElem?_eq_some_iff.mp there).1
  rw [List.getElem?_append_left inside, there]

theorem Formed.grow {since : Nat} {hdr : FrameHeader} {data : List Byte} {later : Nat}
    (more : List Frame) (le : completed ≤ later)
    (formed : Formed early published completed since hdr data) :
    Formed early (published ++ more) later since hdr data := by
  refine ⟨formed.sized, ?_⟩
  rcases formed.origin with unpublished | ⟨index, f, there, same, payload, recent, past⟩
  · exact Or.inl unpublished
  · right
    have past := Nat.lt_of_lt_of_le past le
    exact ⟨index, f, published_stays there, same, payload, recent, past⟩

theorem Explained.grow {client : Client} {indices : List Nat} {later : Nat} (more : List Frame)
    (le : completed ≤ later) (explained : Explained published completed client indices) :
    Explained (published ++ more) later client indices := by
  refine ⟨?_, explained.ordered, ?_, explained.before⟩
  · apply explained.frames.imp
    intro d index known
    obtain ⟨f, there, same⟩ := known.frame
    exact ⟨⟨f, published_stays there, same⟩, known.sized, known.recent⟩
  · intro index member
    exact Nat.lt_of_lt_of_le (explained.past index member) le

/-- One more delivery, of a frame that was current after the request was sent. -/
theorem Explained.returned {client : Client} {indices : List Nat} {hdr : FrameHeader}
    {data : List Byte} (explained : Explained published completed client indices)
    (asked : client.pc.asked = true) (magic : hdr.magic = kFrameMagic)
    (formed : Formed early published completed client.since hdr data) :
    ∃ indices, Explained published completed (client.returned hdr data) indices := by
  rcases formed.origin with ⟨_, zero, _⟩ | ⟨index, f, there, same, payload, recent, past⟩
  · rw [zero] at magic
    cases magic
  · by_cases valid : hdr.valid = true
    · refine ⟨indices ++ [index], ?_, ?_, ?_, fun idle => by cases idle⟩
      · simp only [Client.returned, if_pos valid]
        exact List.rel_append explained.frames
          (.cons ⟨⟨f, there, same, payload⟩, formed.sized, recent⟩ .nil)
      · rw [List.pairwise_append]
        refine ⟨explained.ordered, List.pairwise_singleton _ _, ?_⟩
        intro earlier member last single
        rw [List.mem_singleton.mp single]
        have bound := explained.before asked earlier member
        omega
      · intro i member
        rcases List.mem_append.mp member with old | new
        · exact explained.past i old
        · rw [List.mem_singleton.mp new]
          exact past
    · refine ⟨indices, ?_, explained.ordered, explained.past, fun idle => by cases idle⟩
      simp only [Client.returned, if_neg valid]
      exact explained.frames

end Growth

section Steps

variable {early : Prop} {s t : State P C}

/-- A step that leaves a client and its connection alone. -/
theorem Served.frame {c : C} (held : Served early s c) (published : t.published = s.published)
    (completed : t.completed = s.completed) (client : t.clients c = s.clients c)
    (conn : ∀ i, (s.clients c).pipe = some i →
      Exchange (Formed early s.published s.completed (s.clients c).since) (s.conns i)
        (s.clients c).pc →
      Exchange (Formed early s.published s.completed (s.clients c).since) (t.conns i)
        (s.clients c).pc) : Served early t c := by
  refine ⟨?_, ?_, ?_, ?_⟩
  · intro i pipe
    rw [client] at pipe
    rw [published, completed, client]
    exact conn i pipe (held.exchange i pipe)
  · rw [client]
    exact held.resting
  · rw [client, completed]
    exact held.since
  · rw [client, published, completed]
    exact held.explained

theorem Served.owner {c : C} (held : Served early s c) (known : Instances s) {a : OwnerAction}
    (taken : ownerStep s a = some t) : Served early t c := by
  obtain ⟨_, _, _, conns, rfl, changed⟩ := ownerStep_some taken
  refine held.frame rfl rfl rfl ?_
  intro i pipe exchange
  have peer := known.dialled c i pipe
  rcases changed i with kept | ⟨listening, _⟩ | ⟨hangUp, _⟩
  · change Exchange _ (conns i) _
    rw [kept]
    exact exchange
  · exact (known.not_listening peer listening).elim
  · rw [known.poked i hangUp] at peer
    cases peer

theorem Served.accept {c : C} (held : Served early s c) (known : Instances s) {a : AcceptAction}
    (taken : acceptStep s a = some t) : Served early t c := by
  obtain ⟨_, _, conns, rfl, changed⟩ := acceptStep_some taken
  refine held.frame rfl rfl rfl ?_
  intro i pipe exchange
  change Exchange _ (conns i) _
  rcases changed i with kept | ⟨rfl, _⟩ | ⟨mine, shut | started⟩
  · rw [kept]
    exact exchange
  · have peer := known.dialled c _ pipe
    rw [known.fresh _ (Nat.le_refl _)] at peer
    cases peer
  · rw [shut]
    exact exchange.shut (Or.inr (known.waiting i mine).2)
  · rw [started]
    exact exchange.started (known.waiting i mine).2

/-- At the moment a serving thread leaves the mutex it holds a copy of the slot. -/
theorem Slot.formed (held : Slot s) {i since : Nat} {copy : FrameHeader} {data : List Byte}
    (unlock : (s.conns i).serve = .unlock copy data) (sent : since ≤ s.completed)
    (early_ok : s.published = [] → early) :
    Formed early s.published s.completed since
      { copy with byteLength := .ofNat 32 data.length } data := by
  have holds := held.copying i (by rw [unlock]; rfl)
  have guarded := held.guarded
  rw [holds] at guarded
  obtain ⟨current, completed, copied⟩ := guarded
  rw [unlock] at copied
  obtain ⟨rfl, rfl⟩ := copied
  unfold Current at current
  cases last : s.published.getLast? with
  | none =>
      rw [last] at current
      obtain ⟨zero, none⟩ := current
      rw [zero, none]
      exact ⟨rfl, Or.inl ⟨early_ok (List.getLast?_eq_none_iff.mp last), rfl, rfl⟩⟩
  | some f =>
      rw [last] at current
      obtain ⟨hdr, payload⟩ := current
      have some : s.published ≠ [] := by
        intro none
        rw [none] at last
        cases last
      have long := List.length_pos_iff.mpr some
      have length : BitVec.ofNat 32 f.payload.length = f.hdr.byteLength := by
        rw [f.sized, BitVec.ofNat_toNat, BitVec.setWidth_eq]
      rw [hdr, payload, length]
      refine ⟨f.sized.symm, Or.inr ⟨s.published.length - 1, f, ?_, rfl, rfl, ?_, ?_⟩⟩
      · rw [← List.getLast?_eq_getElem?, last]
      · omega
      · omega

theorem Served.serve {c : C} (held : Served early s c) (slot : Slot s) {i : Nat} {a : ServeAction}
    (early_ok : a = .unlock → s.published = [] → early)
    (taken : serveStep s i a = some t) : Served early t c := by
  obtain ⟨conn, stepped, _, rfl⟩ := serveStep_some taken
  refine held.frame ?_ ?_ ?_ ?_
  · rw [setConn_published, serveShared_published]
  · rw [setConn_completed, serveShared_completed]
  · rw [setConn_clients, serveShared_clients]
  · intro j pipe exchange
    by_cases same : j = i
    · subst same
      rw [setConn_same]
      apply exchange.serve stepped
      intro forms copy data unlock
      exact slot.formed unlock held.since (early_ok forms)
    · rw [setConn_other _ _ _ _ same, serveShared_conns]
      exact exchange

/-- A publisher only adds to what is published and to how many calls have returned. -/
theorem publishStep_grows [DecidableEq P] {p : P} {a : PublishAction}
    (taken : publishStep s p a = some t) :
    ∃ more, t.published = s.published ++ more ∧ s.completed ≤ t.completed ∧
      t.conns = s.conns ∧ t.clients = s.clients := by
  cases publishStep_steps taken with
  | lock => exact ⟨_, rfl, Nat.le_refl _, rfl, rfl⟩
  | unlock => exact ⟨[], (List.append_nil _).symm, Nat.le_succ _, rfl, rfl⟩
  | _ => exact ⟨[], (List.append_nil _).symm, Nat.le_refl _, rfl, rfl⟩

theorem Served.publish [DecidableEq P] {c : C} (held : Served early s c) {p : P}
    {a : PublishAction} (taken : publishStep s p a = some t) : Served early t c := by
  obtain ⟨more, published, completed, conns, clients⟩ := publishStep_grows taken
  obtain ⟨indices, explained⟩ := held.explained
  refine ⟨?_, ?_, ?_, indices, ?_⟩
  · intro i pipe
    rw [clients] at pipe
    rw [published, conns, clients]
    exact (held.exchange i pipe).mono fun hdr data formed => formed.grow more completed
  · rw [clients]
    exact held.resting
  · rw [clients]
    exact Nat.le_trans held.since completed
  · rw [clients, published]
    exact explained.grow more completed

theorem Served.outside [DecidableEq C] {c : C} (held : Served early s c) (known : Instances s)
    {a : OutsideAction} (taken : outsideStep s a = some t) : Served early t c := by
  obtain ⟨i, conn, rfl, _, _, stage⟩ := outsideStep_some taken
  refine held.frame rfl rfl rfl ?_
  intro j pipe exchange
  have peer := known.dialled c j pipe
  by_cases same : j = i
  · subst same
    rcases stage with ⟨listening, _⟩ | ⟨other, _⟩
    · exact (known.not_listening peer listening).elim
    · rw [peer] at other
      cases other
  · rw [setConn_other _ _ _ _ same]
    exact exchange

/-- Another client's step: no two clients share an instance. -/
theorem Served.fetchOther [DecidableEq C] {c d : C} (held : Served early s d) (known : Instances s)
    (other : d ≠ c) {a : FetchAction} (taken : fetchStep s c a = some t) : Served early t d := by
  rcases fetchStep_some taken with rfl | ⟨i, _, _, _, listening, rfl⟩ | ⟨i, next, pipe, _, rfl⟩
  · exact held
  · refine held.frame rfl rfl (Function.update_of_ne other _ _) ?_
    intro j mine exchange
    have apart : j ≠ i := by
      intro same
      subst same
      exact known.not_listening (known.dialled d j mine) listening
    change Exchange _ ((s.setConn i _).conns j) _
    rw [setConn_other _ _ _ _ apart]
    exact exchange
  · refine held.frame rfl rfl (Function.update_of_ne other _ _) ?_
    intro j mine exchange
    have apart : j ≠ i := by
      intro same
      subst same
      have peer := known.dialled d j mine
      rw [known.dialled c j pipe] at peer
      cases peer
      exact other rfl
    change Exchange _ ((s.setConn i _).conns j) _
    rw [setConn_other _ _ _ _ apart]
    exact exchange

/-- What a client's step comes to, in a state where its replies are known. -/
theorem Served.outcome {c : C} (held : Served early s c) {i : Nat} {a : FetchAction}
    {next : Client × Conn C} (pipe : (s.clients c).pipe = some i)
    (stepped : (s.clients c).step s.completed (s.conns i) a = some next) :
    (s.clients c).Outcome (Formed early s.published s.completed) s.completed a next :=
  (held.exchange i pipe).fetch (fun _ _ _ formed => formed.sized) stepped

theorem Served.fetch [DecidableEq C] {c : C} (held : Served early s c) (known : Instances s)
    {a : FetchAction} (taken : fetchStep s c a = some t) : Served early t c := by
  obtain ⟨indices, explained⟩ := held.explained
  rcases fetchStep_some taken with
    rfl | ⟨i, _, _, idle, listening, rfl⟩ | ⟨i, next, pipe, stepped, rfl⟩
  · exact held
  · have client : ((s.setConn i ((s.conns i).opened (.client c))).setClient c
        { s.clients c with pipe := some i, pc := .request requestBytes }).clients c =
        { s.clients c with pipe := some i, pc := .request requestBytes } :=
      Function.update_self _ _ _
    refine ⟨?_, ?_, ?_, indices, ?_⟩
    · intro j pipe
      rw [client] at pipe ⊢
      cases pipe
      change Exchange _ ((s.setConn i _).conns i) _
      rw [setConn_same, known.listening i listening]
      refine .asking [] requestBytes _ .absent (.request _ ?_) rfl rfl
      intro none
      have sized := requestBytes_length
      rw [none] at sized
      cases sized
    · rw [client]
      exact nofun
    · rw [client]
      exact held.since
    · rw [client]
      exact ⟨explained.frames, explained.ordered, explained.past, nofun⟩
  · have client : ((s.setConn i next.2).setClient c next.1).clients c = next.1 :=
      Function.update_self _ _ _
    have conn : ((s.setConn i next.2).setClient c next.1).conns i = next.2 := setConn_same _ _ _
    cases held.outcome pipe stepped with
    | closed none idle log since _ =>
        refine ⟨?_, ?_, ?_, indices, ?_⟩
        · intro j some
          rw [client, none] at some
          cases some
        · rw [client]
          exact fun _ => idle
        · rw [client, since]
          exact held.since
        · rw [client]
          refine ⟨?_, explained.ordered, explained.past, ?_⟩
          · rw [log]
            exact explained.frames
          · rw [idle]
            exact nofun
    | moved kept log since exchange =>
        refine ⟨?_, ?_, ?_, indices, ?_⟩
        · intro j some
          rw [client, kept, pipe] at some
          cases some
          rw [client, conn]
          exact exchange
        · rw [client, kept, pipe]
          exact nofun
        · rw [client]
          rcases since with ⟨same, _⟩ | sent
          · rw [same]
            exact held.since
          · exact Nat.le_of_eq sent
        · rw [client]
          refine ⟨?_, explained.ordered, explained.past, ?_⟩
          · rw [log]
            exact explained.frames
          · intro asked
            rcases since with ⟨same, before⟩ | sent
            · rw [same]
              exact explained.before (before asked)
            · rw [sent]
              exact explained.past
    | returned hdr data asked known magic same exchange =>
        have sent : next.1.since = (s.clients c).since := by
          rw [same]
          rfl
        refine ⟨?_, ?_, ?_, ?_⟩
        · intro j some
          have kept : next.1.pipe = (s.clients c).pipe := by
            rw [same]
            rfl
          rw [client, kept, pipe] at some
          cases some
          rw [client, conn, sent, same]
          exact exchange
        · rw [client, same]
          exact fun _ => rfl
        · rw [client, sent]
          exact held.since
        · rw [client, same]
          exact explained.returned asked magic known

end Steps

section Runs

variable [DecidableEq P] [DecidableEq C]

/-- A serving thread only forms a reply once something is published, unless `early`. -/
def NotEarly (early : Prop) (s : State P C) (a : Action P C) : Prop :=
  ∀ i, a = .serve i .unlock → s.published = [] → early

theorem served_step {early : Prop} {s t : State P C} {a : Action P C} {c : C}
    (held : Served early s c) (known : Instances s) (slot : Slot s) (late : NotEarly early s a)
    (taken : step s a = some t) : Served early t c := by
  cases a with
  | owner a => exact held.owner known taken
  | accept a => exact held.accept known taken
  | serve i a => exact held.serve slot (fun unlock => late i (by rw [unlock])) taken
  | publish p a => exact held.publish taken
  | fetch d a =>
      by_cases same : c = d
      · subst same
        exact held.fetch known taken
      · exact held.fetchOther known same taken
  | outside a => exact held.outside known taken

theorem delivering_step {early : Prop} (s : State P C) (a : Action P C) (t : State P C)
    (held : Delivering early s) (late : NotEarly early s a) (taken : step s a = some t) :
    Delivering early t := by
  have shared := slot_step s a t ⟨held.instances, held.slot⟩ taken
  refine ⟨shared.1, shared.2, ?_⟩
  intro c
  exact served_step (held.served c) held.instances held.slot late taken

theorem delivering_reachable {s : State P C} (reached : Reachable s) : Delivering True s := by
  apply invariant_reachable ?_ ?_ reached
  · intro s initial
    rw [initial]
    exact delivering_initial True
  · intro s a t held taken
    exact delivering_step s a t held (fun _ _ _ => trivial) taken

/-- In every run, every frame a client was handed is, header and payload, the frame
of one `Publish` call, at least as recent as the last call that had returned when the
request went out, and the calls behind its successive fetches never go backwards. -/
theorem fetch_delivers_published (s : State P C) (reached : Reachable s) (c : C) :
    ∃ indices : List Nat, List.Forall₂ (Delivery.Of s.published) (s.clients c).log indices ∧
      indices.Pairwise (· ≤ ·) := by
  obtain ⟨indices, explained⟩ := ((delivering_reachable reached).served c).explained
  exact ⟨indices, explained.frames, explained.ordered⟩

end Runs

def pixelHeader : FrameHeader :=
  { FrameHeader.zero with
    fourcc := kFourccNV12, width := 1, height := 1, stride := 1, byteLength := 1, sequence := 7,
    flags := flag_valid }

/-- A frame with a payload of one byte. -/
def pixelFrame : Frame := ⟨pixelHeader, [16], rfl⟩

/-- `Publish` and one `Fetch` that reads the header in two pieces. -/
def pixelSession : List (Action Unit Unit) :=
  [.owner .start, .accept .test, .accept (.create true), .fetch () (.dial (some 0)),
    .accept (.connected true), .accept .recheck, .serve 0 .enter,
    .publish () (.call pixelFrame), .publish () .lock, .publish () .copyHdr,
    .publish () .stampMagic, .publish () .stampVersion, .publish () .assign, .publish () .unlock,
    .fetch () (.write (.moved 4)), .serve 0 (.read (.moved 4)), .serve 0 .lock, .serve 0 .copyHdr,
    .serve 0 .copyPayload, .serve 0 .unlock, .serve 0 (.write (.moved 48)),
    .fetch () (.read (.moved 20)), .fetch () (.read (.moved 28)), .serve 0 (.write (.moved 1)),
    .fetch () (.read (.moved 1))]

theorem pixelSession_delivers :
    ∃ s : State Unit Unit, run step (State.initial Unit Unit) pixelSession = some s ∧
      (s.clients ()).log = [⟨pixelHeader.stamped, [16], 1⟩] ∧
      ∃ indices : List Nat, List.Forall₂ (Delivery.Of s.published) (s.clients ()).log indices ∧
        indices.Pairwise (· ≤ ·) :=
  ⟨_, rfl, rfl, fetch_delivers_published _ ⟨_, pixelSession, rfl, rfl⟩ ()⟩

end Obs2Mf.Pipe
