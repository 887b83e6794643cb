import Obs2Mf.Pipe.Instances

set_option autoImplicit false

/- The newest-frame slot and its mutex: outside a `Publish` call the slot is the
newest frame, and a serving thread copies it whole. -/
namespace Obs2Mf.Pipe

variable {P C : Type}

/-- The stages in which a serving thread holds the mutex. -/
def ServePc.critical : ServePc → Bool
  | .copyHdr | .copyPayload _ | .unlock _ _ => true
  | _ => false

/-- The stages in which a publisher holds the mutex. -/
def PublishPc.critical : PublishPc → Bool
  | .idle | .lock _ => false
  | _ => true

/-- What the slot holds once every `Publish` call that took the lock has left it. -/
def Current (published : List Frame) (hdr : FrameHeader) (payload : List Byte) : Prop :=
  match published.getLast? with
  | none => hdr = .zero ∧ payload = []
  | some f => hdr = f.hdr.stamped ∧ payload = f.payload

/-- How far a publisher that holds the mutex has replaced the slot by its frame. -/
def PublishPc.Writing (f : Frame) (hdr : FrameHeader) (payload : List Byte) : PublishPc → Prop
  | .copyHdr g => g = f
  | .stampMagic g => g = f ∧ hdr = f.hdr
  | .stampVersion g => g = f ∧ hdr = { f.hdr with magic := kFrameMagic }
  | .assign g => g = f ∧ hdr = f.hdr.stamped
  | .unlock => hdr = f.hdr.stamped ∧ payload = f.payload
  | _ => False

/-- What a serving thread that holds the mutex has copied so far. -/
def ServePc.Copied (hdr : FrameHeader) (payload : List Byte) : ServePc → Prop
  | .copyHdr => True
  | .copyPayload copy => copy = hdr
  | .unlock copy data => copy = hdr ∧ data = payload
  | _ => False

/-- What the mutex guards, by who holds it. -/
def State.Guarded (s : State P C) : Option (Holder P) → Prop
  | none => Current s.published s.hdr s.payload ∧ s.completed = s.published.length
  | some (.server i) =>
      Current s.published s.hdr s.payload ∧ s.completed = s.published.length ∧
        (s.conns i).serve.Copied s.hdr s.payload
  | some (.publisher p) =>
      ∃ earlier f, s.published = earlier ++ [f] ∧ s.completed = earlier.length ∧
        (s.publishers p).Writing f s.hdr s.payload

structure Slot (s : State P C) : Prop where
  publishing : ∀ p, (s.publishers p).critical = true → s.mtx = some (.publisher p)
  copying : ∀ i, (s.conns i).serve.critical = true → s.mtx = some (.server i)
  guarded : s.Guarded s.mtx

theorem slot_initial : Slot (State.initial P C) where
  publishing := nofun
  copying := nofun
  guarded := ⟨⟨rfl, rfl⟩, rfl⟩

theorem current_snoc (earlier : List Frame) (f : Frame) :
    Current (earlier ++ [f]) f.hdr.stamped f.payload := by
  rw [Current, List.getLast?_append, List.getLast?_singleton]
  exact ⟨rfl, rfl⟩

theorem ServePc.Copied.critical {pc : ServePc} {hdr : FrameHeader} {payload : List Byte}
    (copied : pc.Copied hdr payload) : pc.critical = true := by
  cases pc <;> first | rfl | exact copied.elim

/-- How a serving thread's step stands to the mutex. -/
theorem Conn.step_critical {hdr : FrameHeader} {payload : List Byte} {conn conn' : Conn C}
    {a : ServeAction} (taken : conn.step hdr payload a = some conn') :
    (a = .lock ∧ conn'.serve = .copyHdr) ∨
    (a = .unlock ∧ conn.serve.critical = true ∧ conn'.serve.critical = false) ∨
    (a ≠ .lock ∧ a ≠ .unlock ∧ conn.serve.critical = true ∧
      (conn.serve.Copied hdr payload → conn'.serve.Copied hdr payload)) ∨
    (a ≠ .lock ∧ a ≠ .unlock ∧ conn.serve.critical = false ∧ conn'.serve.critical = false) := by
  have request (got : List Byte) : (afterRequest got).critical = false := by
    unfold afterRequest
    grind [ServePc.critical]
  have header (rest data : List Byte) : (afterHeader rest data).critical = false := by
    unfold afterHeader
    grind [ServePc.critical]
  have payload (rest : List Byte) : (afterPayload rest).critical = false := by
    unfold afterPayload
    grind [ServePc.critical]
  cases Conn.step_steps taken <;> grind [ServePc.critical, ServePc.Copied, Conn.shut]

section Steps

variable {s t : State P C}

/-- Steps that neither write the slot nor move a thread in or out of its stages. -/
theorem Slot.frame (held : Slot s) (mtx : t.mtx = s.mtx) (hdr : t.hdr = s.hdr)
    (payload : t.payload = s.payload) (publishers : t.publishers = s.publishers)
    (published : t.published = s.published) (completed : t.completed = s.completed)
    (serve : ∀ j, (t.conns j).serve = (s.conns j).serve ∨
      (s.conns j).serve.critical = false ∧ (t.conns j).serve.critical = false) : Slot t := by
  refine ⟨?_, ?_, ?_⟩
  · rw [mtx, publishers]
    exact held.publishing
  · intro i critical
    rw [mtx]
    apply held.copying
    rcases serve i with same | ⟨_, outside⟩
    · rw [← same, critical]
    · rw [outside] at critical
      cases critical
  · have guarded := held.guarded
    rw [mtx]
    cases holder : s.mtx with
    | none =>
        rw [holder] at guarded
        simpa only [State.Guarded, hdr, payload, published, completed] using guarded
    | some holding =>
        rw [holder] at guarded
        cases holding with
        | publisher p =>
            simpa only [State.Guarded, hdr, payload, published, completed, publishers] using guarded
        | server i =>
            rcases serve i with same | ⟨outside, _⟩
            · simpa only [State.Guarded, hdr, payload, published, completed, same] using guarded
            · have inside := guarded.2.2.critical
              rw [outside] at inside
              cases inside

theorem Slot.serve (held : Slot s) {i : Nat} {a : ServeAction} (taken : serveStep s i a = some t) :
    Slot t := by
  obtain ⟨conn, stepped, free, rfl⟩ := serveStep_some taken
  have others (j : Nat) (other : j ≠ i) :
      (((serveShared s i a).setConn i conn).conns j).serve = (s.conns j).serve := by
    rw [setConn_other _ _ _ _ other, serveShared_conns]
  rcases Conn.step_critical stepped with
    ⟨rfl, entered⟩ | ⟨rfl, inside, left⟩ | ⟨lock, unlock, inside, copied⟩ |
      ⟨lock, unlock, outside, still⟩
  · have guarded := held.guarded
    rw [free rfl] at guarded
    refine ⟨?_, ?_, guarded.1, guarded.2, ?_⟩
    · intro p critical
      have holds := held.publishing p (by simpa using critical)
      rw [free rfl] at holds
      cases holds
    · intro j critical
      by_cases same : j = i
      · rw [same]
        rfl
      · rw [others j same] at critical
        have holds := held.copying j critical
        rw [free rfl] at holds
        cases holds
    · rw [setConn_same, entered]
      trivial
  · have holds := held.copying i inside
    have guarded := held.guarded
    rw [holds] at guarded
    refine ⟨?_, ?_, guarded.1, guarded.2.1⟩
    · intro p critical
      have publisher := held.publishing p (by simpa using critical)
      rw [holds] at publisher
      cases publisher
    · intro j critical
      by_cases same : j = i
      · rw [same, setConn_same, left] at critical
        cases critical
      · rw [others j same] at critical
        have server := held.copying j critical
        rw [holds, Option.some.injEq, Holder.server.injEq] at server
        exact (same server.symm).elim
  · have holds := held.copying i inside
    have guarded := held.guarded
    rw [holds] at guarded
    have shared : ((serveShared s i a).setConn i conn).mtx = some (.server i) := by
      rw [← holds]
      cases a <;> first | rfl | exact (lock rfl).elim | exact (unlock rfl).elim
    refine ⟨?_, ?_, ?_⟩
    · intro p critical
      have publisher := held.publishing p (by simpa using critical)
      rw [holds] at publisher
      cases publisher
    · intro j critical
      rw [shared]
      by_cases same : j = i
      · rw [same]
      · rw [others j same] at critical
        rw [← holds]
        exact held.copying j critical
    · rw [shared]
      refine ⟨?_, ?_, ?_⟩
      · simpa using guarded.1
      · simpa using guarded.2.1
      · simpa using copied guarded.2.2
  · apply held.frame
    · rw [setConn_mtx]
      cases a <;> first | rfl | exact (lock rfl).elim | exact (unlock rfl).elim
    · rw [setConn_hdr, serveShared_hdr]
    · rw [setConn_payload, serveShared_payload]
    · rw [setConn_publishers, serveShared_publishers]
    · rw [setConn_published, serveShared_published]
    · rw [setConn_completed, serveShared_completed]
    · intro j
      by_cases same : j = i
      · rw [same, setConn_same]
        exact Or.inr ⟨outside, still⟩
      · exact Or.inl (others j same)

/-- A publisher outside its critical stages moves to another such stage. -/
theorem Slot.waiting [DecidableEq P] (held : Slot s) {p : P} {pc : PublishPc}
    (outside : (s.publishers p).critical = false) (still : pc.critical = false) :
    Slot { s with publishers := Function.update s.publishers p pc } := by
  have unmoved (q : P) (critical : (s.publishers q).critical = true) :
      Function.update s.publishers p pc q = s.publishers q := by
    apply Function.update_of_ne
    intro same
    rw [same, outside] at critical
    cases critical
  refine ⟨?_, held.copying, ?_⟩
  · intro q critical
    by_cases same : q = p
    · subst same
      simp only [Function.update_self, still, Bool.false_eq_true] at critical
    · simp only [Function.update_of_ne same] at critical
      exact held.publishing q critical
  · have guarded := held.guarded
    change State.Guarded _ s.mtx
    cases holder : s.mtx with
    | none =>
        rw [holder] at guarded
        exact guarded
    | some holding =>
        rw [holder] at guarded
        cases holding with
        | server i => exact guarded
        | publisher q =>
            obtain ⟨earlier, f, published, completed, writing⟩ := guarded
            refine ⟨earlier, f, published, completed, ?_⟩
            have critical : (s.publishers q).critical = true := by
              cases pc : s.publishers q <;> first | rfl | (rw [pc] at writing; exact writing.elim)
            dsimp only
            rw [unmoved q critical]
            exact writing

/-- The publisher that holds the mutex takes its next step inside. -/
theorem Slot.writing [DecidableEq P] (held : Slot s) {p : P} {pc : PublishPc} {hdr : FrameHeader}
    {payload : List Byte} (critical : (s.publishers p).critical = true)
    (writing : ∀ f, (s.publishers p).Writing f s.hdr s.payload → pc.Writing f hdr payload) :
    Slot { s with
      hdr := hdr, payload := payload, publishers := Function.update s.publishers p pc } := by
  have holds := held.publishing p critical
  have guarded := held.guarded
  rw [holds] at guarded
  refine ⟨?_, held.copying, ?_⟩
  · intro q inside
    by_cases same : q = p
    · rw [same]
      exact holds
    · simp only [Function.update_of_ne same] at inside
      exact held.publishing q inside
  · obtain ⟨earlier, f, published, completed, before⟩ := guarded
    change State.Guarded _ s.mtx
    rw [holds]
    refine ⟨earlier, f, published, completed, ?_⟩
    simp only [Function.update_self]
    exact writing f before

theorem Slot.publish [DecidableEq P] (held : Slot s) {p : P} {a : PublishAction}
    (taken : publishStep s p a = some t) : Slot t := by
  cases publishStep_steps taken with
  | call f idle => exact held.waiting (by rw [idle]; rfl) rfl
  | lock f lock free =>
      have guarded := held.guarded
      rw [free] at guarded
      refine ⟨?_, ?_, s.published, f, rfl, guarded.2, ?_⟩
      · intro q critical
        by_cases same : q = p
        · rw [same]
        · simp only [Function.update_of_ne same] at critical
          have holds := held.publishing q critical
          rw [free] at holds
          cases holds
      · intro i critical
        have holds := held.copying i critical
        rw [free] at holds
        cases holds
      · simp only [Function.update_self]
        rfl
  | copyHdr f copyHdr =>
      apply held.writing
      · rw [copyHdr]
        rfl
      · intro g before
        rw [copyHdr] at before
        subst before
        exact ⟨rfl, rfl⟩
  | stampMagic f stampMagic =>
      apply held.writing
      · rw [stampMagic]
        rfl
      · intro g before
        rw [stampMagic] at before
        obtain ⟨same, hdr⟩ := before
        rw [hdr]
        exact ⟨same, rfl⟩
  | stampVersion f stampVersion =>
      apply held.writing
      · rw [stampVersion]
        rfl
      · intro g before
        rw [stampVersion] at before
        obtain ⟨same, hdr⟩ := before
        rw [hdr]
        exact ⟨same, rfl⟩
  | assign f assign =>
      apply held.writing
      · rw [assign]
        rfl
      · intro g before
        rw [assign] at before
        obtain ⟨same, hdr⟩ := before
        subst same
        exact ⟨hdr, rfl⟩
  | unlock unlock =>
      have holds := held.publishing p (by rw [unlock]; rfl)
      have guarded := held.guarded
      rw [holds] at guarded
      obtain ⟨earlier, f, published, completed, writing⟩ := guarded
      rw [unlock] at writing
      refine ⟨?_, ?_, ?_, ?_⟩
      · intro q critical
        by_cases same : q = p
        · subst same
          simp only [Function.update_self, PublishPc.critical, Bool.false_eq_true] at critical
        · simp only [Function.update_of_ne same] at critical
          have other := held.publishing q critical
          rw [holds, Option.some.injEq, Holder.publisher.injEq] at other
          exact (same other.symm).elim
      · intro i critical
        have other := held.copying i critical
        rw [holds] at other
        cases other
      · rw [published, writing.1, writing.2]
        exact current_snoc earlier f
      · simp only [published, completed, List.length_append, List.length_singleton]

theorem Slot.owner (held : Slot s) {a : OwnerAction} (taken : ownerStep s a = some t) :
    Slot t := by
  obtain ⟨_, _, _, conns, rfl, changed⟩ := ownerStep_some taken
  refine held.frame rfl rfl rfl rfl rfl rfl ?_
  intro j
  rcases changed j with kept | ⟨_, opened⟩ | ⟨_, hungUp⟩
  · exact Or.inl (congrArg Conn.serve kept)
  · exact Or.inl ((congrArg Conn.serve opened).trans rfl)
  · exact Or.inl ((congrArg Conn.serve hungUp).trans rfl)

theorem Slot.accept (held : Slot s) (known : Instances s) {a : AcceptAction}
    (taken : acceptStep s a = some t) : Slot t := by
  obtain ⟨_, _, conns, rfl, changed⟩ := acceptStep_some taken
  refine held.frame rfl rfl rfl rfl rfl rfl ?_
  intro j
  rcases changed j with kept | ⟨rfl, created⟩ | ⟨mine, shut | started⟩
  · exact Or.inl (congrArg Conn.serve kept)
  · left
    rw [known.fresh _ (Nat.le_refl _)]
    exact (congrArg Conn.serve created).trans rfl
  · exact Or.inl ((congrArg Conn.serve shut).trans rfl)
  · right
    constructor
    · rw [(known.waiting j mine).2]
      rfl
    · exact (congrArg (fun conn => conn.serve.critical) started).trans rfl

theorem Slot.fetch [DecidableEq C] (held : Slot s) {c : C} {a : FetchAction}
    (taken : fetchStep s c a = some t) : Slot t := by
  have serve := (fetchStep_apart taken).serve
  rcases fetchStep_some taken with rfl | ⟨_, _, _, _, _, rfl⟩ | ⟨_, _, _, _, rfl⟩
  · exact held
  · exact held.frame rfl rfl rfl rfl rfl rfl fun j => Or.inl (serve j)
  · exact held.frame rfl rfl rfl rfl rfl rfl fun j => Or.inl (serve j)

theorem Slot.outside [DecidableEq C] (held : Slot s) {a : OutsideAction}
    (taken : outsideStep s a = some t) : Slot t := by
  have serve := (outsideStep_apart taken).serve
  obtain ⟨_, _, rfl, _⟩ := outsideStep_some taken
  exact held.frame rfl rfl rfl rfl rfl rfl fun j => Or.inl (serve j)

end Steps

theorem slot_step [DecidableEq P] [DecidableEq C] (s : State P C) (a : Action P C)
    (t : State P C) (held : Instances s ∧ Slot s) (taken : step s a = some t) :
    Instances t ∧ Slot t := by
  refine ⟨instances_step s a t held.1 taken, ?_⟩
  cases a with
  | owner a => exact held.2.owner taken
  | accept a => exact held.2.accept held.1 taken
  | serve i a => exact held.2.serve taken
  | publish p a => exact held.2.publish taken
  | fetch c a => exact held.2.fetch taken
  | outside a => exact held.2.outside taken

end Obs2Mf.Pipe
