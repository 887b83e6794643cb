import Obs2Mf.Vcam.Objects

set_option autoImplicit false

/- Which objects of the DLL are left when its clients have given back everything: a media
source and its stream hold each other until the source is shut down. -/
namespace Obs2Mf.Vcam.Objects

open Counted Run

/-- How the objects refer to each other between two calls. -/
structure Linked (sources shut : List Nat) (h : Heap) : Prop where
  known : ∀ s, s ∈ sources ∨ s ∈ shut → s < h.next
  made : ∀ s pointer queue newStreams,
    h.content s = some (.source pointer queue newStreams) → s ∈ sources
  paired : ∀ s pointer queue newStreams,
    h.content s = some (.source pointer queue newStreams) →
    ∃ t, pointer = some t ∧ (∀ x ∈ newStreams, x = t) ∧
      h.content t = some (.stream (if s ∈ shut then none else some s)) ∧
      (s ∈ shut → queue = false ∧ newStreams = [])
  whole : ∀ s, s ∈ sources → s ∉ shut → ∃ t queue newStreams,
    h.content s = some (.source (some t) queue newStreams)
  bound : ∀ t s, h.content t = some (.stream (some s)) → s ∉ shut ∧
    ∃ queue newStreams, h.content s = some (.source (some t) queue newStreams)
  activates : ∀ a s, h.content a = some (.activator (some s)) →
    ∃ pointer queue newStreams, h.content s = some (.source pointer queue newStreams)

/-- The invariant of the calls. -/
structure Inv (d : Dll) : Prop where
  accounted : Accounted Object.held d.clients d.heap
  linked : Linked d.sources d.shut d.heap

section Linked

variable {sources shut roots : List Nat} {h t : Heap}

theorem Linked.same (linked : Linked sources shut h) (next : h.next ≤ t.next)
    (content : ∀ a, t.content a = h.content a) : Linked sources shut t where
  known := fun s member => Nat.lt_of_lt_of_le (linked.known s member) next
  made := fun s => content s ▸ linked.made s
  paired := by
    intro s pointer queue newStreams here
    rw [content s] at here
    obtain ⟨x, same, events, stream, shut⟩ := linked.paired s pointer queue newStreams here
    exact ⟨x, same, events, (content x).trans stream, shut⟩
  whole := fun s => content s ▸ linked.whole s
  bound := by
    intro x s here
    rw [content x] at here
    obtain ⟨open_, queue, newStreams, there⟩ := linked.bound x s here
    exact ⟨open_, queue, newStreams, (content s).trans there⟩
  activates := by
    intro a s here
    rw [content a] at here
    obtain ⟨pointer, queue, newStreams, there⟩ := linked.activates a s here
    exact ⟨pointer, queue, newStreams, (content s).trans there⟩

/-- A source that is not shut down, and its stream. -/
theorem Linked.closed (linked : Linked sources shut h) {s x : Nat} {queue : Bool}
    {newStreams : List Nat} (here : h.content s = some (.source (some x) queue newStreams))
    (open_ : s ∉ shut) : Closed Object.held h fun a => a = s ∨ a = x := by
  obtain ⟨y, same, _, stream, _⟩ := linked.paired s _ queue newStreams here
  cases same
  rw [if_neg open_] at stream
  obtain ⟨n, source⟩ := Heap.cells_of_content here
  obtain ⟨m, back⟩ := Heap.cells_of_content stream
  rintro a (rfl | rfl)
  · exact ⟨x, _, .inr rfl, back, by simp [Object.held]⟩
  · exact ⟨s, _, .inl rfl, source, by simp [Object.held]⟩

/-- Releases take away what is not linked. -/
theorem Linked.shrinks (linked : Linked sources shut h) (shrinks : Shrinks Object.held h t)
    (accounted : Accounted Object.held roots t) : Linked sources shut t where
  known := by
    intro s member
    rw [shrinks.next]
    exact linked.known s member
  made := fun s pointer queue newStreams here =>
    linked.made s pointer queue newStreams (shrinks.old_content here)
  paired := by
    intro s pointer queue newStreams here
    obtain ⟨x, same, events, stream, shut⟩ :=
      linked.paired s pointer queue newStreams (shrinks.old_content here)
    subst same
    have kept := shrinks.kept_content accounted (a := x) here (by simp [Object.held])
    exact ⟨x, rfl, events, kept.trans stream, shut⟩
  whole := by
    intro s member open_
    obtain ⟨x, queue, newStreams, here⟩ := linked.whole s member open_
    exact ⟨x, queue, newStreams,
      shrinks.closed_content (linked.closed here open_) (.inl rfl) here⟩
  bound := by
    intro x s here
    obtain ⟨open_, queue, newStreams, there⟩ := linked.bound x s (shrinks.old_content here)
    have kept := shrinks.kept_content accounted (a := s) here (by simp [Object.held])
    exact ⟨open_, queue, newStreams, kept.trans there⟩
  activates := by
    intro a s here
    obtain ⟨pointer, queue, newStreams, there⟩ := linked.activates a s (shrinks.old_content here)
    have kept := shrinks.kept_content accounted (a := s) here (by simp [Object.held])
    exact ⟨pointer, queue, newStreams, kept.trans there⟩

end Linked

section Pieces

variable {sources shut roots : List Nat} {h : Heap}

theorem query_counts (accounted : Accounted Object.held roots h) (object : Nat) (answered : Bool)
    (live : answered = true → h.content object ≠ none) :
    ∃ t, query object answered h = some t ∧
      Accounted Object.held (given object answered roots) t ∧ t.next = h.next ∧
      ∀ a, t.content a = h.content a := by
  cases answered with
  | false => exact ⟨h, rfl, accounted, rfl, fun _ => rfl⟩
  | true =>
      obtain ⟨content, there⟩ := Option.ne_none_iff_exists'.mp (live rfl)
      obtain ⟨n, here⟩ := Heap.cells_of_content there
      obtain ⟨t, counted, kept, cells⟩ := accounted.addRef here
      refine ⟨t, counted, kept, ?_, fun a => content_addRef counted⟩
      rw [Heap.addRef, here, Option.map_some, Option.some.injEq] at counted
      rw [← counted]
      rfl

/-- Two new objects that hold each other, and one more reference to the first. -/
theorem makeSource_makes (accounted : Accounted Object.held roots h) :
    ∃ t, makeSource h = some t ∧ Accounted Object.held (h.next :: roots) t ∧
      t.next = h.next + 2 ∧ ∀ a, t.content a =
        if a = h.next then some (.source (some (h.next + 1)) false [])
        else if a = h.next + 1 then some (.stream (some h.next)) else h.content a := by
  have apart : h.next ≠ h.next + 1 := Nat.ne_of_lt (Nat.lt_succ_self _)
  -- the two allocations
  have first : Accounted Object.held (h.next :: roots) (h.alloc (.source none false [])) :=
    Accounted.alloc accounted
  have both : Accounted Object.held
      ((h.alloc (.source none false [])).next :: h.next :: roots)
      ((h.alloc (.source none false [])).alloc (.stream none)) := Accounted.alloc first
  change Accounted Object.held ((h.next + 1) :: h.next :: roots) _ at both
  have contents (a : Nat) : ((h.alloc (.source none false [])).alloc (.stream none)).content a =
      if a = h.next + 1 then some (.stream none)
      else if a = h.next then some (.source none false []) else h.content a := by
    rw [content_alloc, content_alloc]
    rfl
  -- the stream takes a reference to the source
  have live : ((h.alloc (.source none false [])).alloc (.stream none)).content h.next =
      some (.source none false []) := by
    rw [contents, if_neg apart, if_pos rfl]
  obtain ⟨n, here⟩ := Heap.cells_of_content live
  obtain ⟨t, counted, more, _⟩ := both.addRef here
  have same (a : Nat) : t.content a = _ := (content_addRef counted).trans (contents a)
  have stream : t.content (h.next + 1) = some (.stream none) := by
    rw [same, if_pos rfl]
  obtain ⟨m, there⟩ := Heap.cells_of_content stream
  have taken : Accounted Object.held ((h.next + 1) :: h.next :: roots)
      (t.assign (h.next + 1) (.stream (some h.next))) := by
    refine more.assign there fun q => ?_
    simp only [Object.held, Option.toList_some, Option.toList_none, List.count_cons,
      List.count_nil]
    omega
  -- and the source takes over the stream
  have later (a : Nat) : (t.assign (h.next + 1) (.stream (some h.next))).content a =
      if a = h.next + 1 then some (.stream (some h.next)) else t.content a := content_assign stream
  have source : (t.assign (h.next + 1) (.stream (some h.next))).content h.next =
      some (.source none false []) := by
    rw [later, if_neg apart, same, if_neg apart, if_pos rfl]
  obtain ⟨k, again⟩ := Heap.cells_of_content source
  refine ⟨(t.assign (h.next + 1) (.stream (some h.next))).assign h.next
    (.source (some (h.next + 1)) false []), ?_, ?_, ?_, fun a => ?_⟩
  · rw [makeSource, counted]
    rfl
  · refine taken.assign again fun q => ?_
    simp only [Object.held, Option.toList_some, Option.toList_none, List.count_cons,
      List.count_nil, List.append_nil]
    omega
  · show t.next = h.next + 2
    rw [Heap.addRef, here, Option.map_some, Option.some.injEq] at counted
    rw [← counted]
    rfl
  · rw [content_assign source, later, same]
    split_ifs <;> rfl

/-- With a new activator, its new source and the source's stream. -/
structure Grown (this : Nat) (initialized : Bool) (h t : Heap) : Prop where
  next : t.next = h.next + 2
  activator : t.content this = some (.activator (some h.next))
  source : t.content h.next = some (.source (some (h.next + 1)) initialized [])
  stream : t.content (h.next + 1) = some (.stream (some h.next))
  others : ∀ a, a ≠ this → a ≠ h.next → a ≠ h.next + 1 → t.content a = h.content a

theorem initializeActivator_makes {this : Nat} (initialized : Bool)
    (accounted : Accounted Object.held (this :: roots) h)
    (here : h.content this = some (.activator none)) :
    ∃ t, initializeActivator this initialized h = some t ∧
      Accounted Object.held (this :: roots) t ∧ Grown this initialized h t := by
  have below := accounted.content_below here
  obtain ⟨t, made, kept, next, contents⟩ := makeSource_makes accounted
  have activator : t.content this = some (.activator none) := by
    rw [contents, if_neg (by omega), if_neg (by omega), here]
  obtain ⟨n, there⟩ := Heap.cells_of_content activator
  have owned : Accounted Object.held (this :: roots)
      (t.assign this (.activator (some h.next))) := by
    refine kept.assign there fun q => ?_
    simp only [Object.held, Option.toList_some, Option.toList_none, List.count_cons,
      List.count_nil]
    omega
  have later (a : Nat) : (t.assign this (.activator (some h.next))).content a =
      if a = this then some (.activator (some h.next)) else t.content a :=
    content_assign activator
  have source : (t.assign this (.activator (some h.next))).content h.next =
      some (.source (some (h.next + 1)) false []) := by
    rw [later, if_neg (by omega), contents, if_pos rfl]
  have stream : (t.assign this (.activator (some h.next))).content (h.next + 1) =
      some (.stream (some h.next)) := by
    rw [later, if_neg (by omega), contents, if_neg (by omega), if_pos rfl]
  have others (a : Nat) (first : a ≠ this) (second : a ≠ h.next) (third : a ≠ h.next + 1) :
      (t.assign this (.activator (some h.next))).content a = h.content a := by
    rw [later, if_neg first, contents, if_neg second, if_neg third]
  cases initialized with
  | false =>
      refine ⟨_, ?_, owned, next, ?_, source, stream, others⟩
      · rw [initializeActivator, made]
        rfl
      · rw [later, if_pos rfl]
  | true =>
      obtain ⟨m, again⟩ := Heap.cells_of_content source
      have queued (a : Nat) : ((t.assign this (.activator (some h.next))).assign h.next
          (.source (some (h.next + 1)) true [])).content a =
          if a = h.next then some (.source (some (h.next + 1)) true [])
          else (t.assign this (.activator (some h.next))).content a := content_assign source
      refine ⟨(t.assign this (.activator (some h.next))).assign h.next
        (.source (some (h.next + 1)) true []), ?_, ?_, next, ?_, ?_, ?_, ?_⟩
      · rw [initializeActivator, made]
        rfl
      · exact owned.assign again fun q => rfl
      · rw [queued, if_neg (by omega), later, if_pos rfl]
      · rw [queued, if_pos rfl]
      · rw [queued, if_neg (by omega), stream]
      · intro a first second third
        rw [queued, if_neg second, others a first second third]

theorem Linked.grown (linked : Linked sources shut h) {t : Heap} {this : Nat} {initialized : Bool}
    (fresh : ∀ a, h.next ≤ a → h.content a = none) (grown : Grown this initialized h t)
    (here : h.content this = some (.activator none)) : Linked (h.next :: sources) shut t := by
  have open_ : h.next ∉ shut := fun member => Nat.lt_irrefl _ (linked.known _ (.inr member))
  have new (a : Nat) (object : Object) (there : t.content a = some object) :
      (a = this ∧ object = .activator (some h.next)) ∨
      (a = h.next ∧ object = .source (some (h.next + 1)) initialized []) ∨
      (a = h.next + 1 ∧ object = .stream (some h.next)) ∨ h.content a = some object := by
    by_cases first : a = this
    · rw [first, grown.activator, Option.some.injEq] at there
      exact .inl ⟨first, there.symm⟩
    by_cases second : a = h.next
    · rw [second, grown.source, Option.some.injEq] at there
      exact .inr (.inl ⟨second, there.symm⟩)
    by_cases third : a = h.next + 1
    · rw [third, grown.stream, Option.some.injEq] at there
      exact .inr (.inr (.inl ⟨third, there.symm⟩))
    rw [grown.others a first second third] at there
    exact .inr (.inr (.inr there))
  have old (a : Nat) (object : Object) (there : h.content a = some object)
      (other : object ≠ .activator none) : t.content a = some object := by
    rw [grown.others a, there]
    · rintro rfl
      rw [here, Option.some.injEq] at there
      exact other there.symm
    · rintro rfl
      rw [fresh _ (Nat.le_refl _)] at there
      cases there
    · rintro rfl
      rw [fresh _ (Nat.le_succ _)] at there
      cases there
  constructor
  · intro s member
    rw [grown.next]
    rcases member with member | member
    · rcases List.mem_cons.mp member with rfl | member
      · omega
      · have below := linked.known s (.inl member)
        omega
    · have below := linked.known s (.inr member)
      omega
  · intro s pointer queue newStreams there
    rcases new s _ there with ⟨_, ⟨⟩⟩ | ⟨rfl, _⟩ | ⟨_, ⟨⟩⟩ | before
    · exact List.mem_cons_self
    · exact List.mem_cons_of_mem _ (linked.made s pointer queue newStreams before)
  · intro s pointer queue newStreams there
    rcases new s _ there with ⟨_, ⟨⟩⟩ | ⟨rfl, ⟨⟩⟩ | ⟨_, ⟨⟩⟩ | before
    · refine ⟨h.next + 1, rfl, by simp, ?_, fun member => absurd member open_⟩
      rw [if_neg open_, grown.stream]
    · obtain ⟨x, same, events, stream, ended⟩ :=
        linked.paired s pointer queue newStreams before
      exact ⟨x, same, events, old x _ stream (by simp), ended⟩
  · intro s member still
    rcases List.mem_cons.mp member with rfl | member
    · exact ⟨_, _, _, grown.source⟩
    · obtain ⟨x, queue, newStreams, before⟩ := linked.whole s member still
      exact ⟨x, queue, newStreams, old s _ before (by simp)⟩
  · intro x s there
    rcases new x _ there with ⟨_, ⟨⟩⟩ | ⟨_, ⟨⟩⟩ | ⟨rfl, ⟨⟩⟩ | before
    · exact ⟨open_, _, _, grown.source⟩
    · obtain ⟨still, queue, newStreams, source⟩ := linked.bound x s before
      exact ⟨still, queue, newStreams, old s _ source (by simp)⟩
  · intro a s there
    rcases new a _ there with ⟨_, ⟨⟩⟩ | ⟨_, ⟨⟩⟩ | ⟨_, ⟨⟩⟩ | before
    · exact ⟨_, _, _, grown.source⟩
    · obtain ⟨pointer, queue, newStreams, source⟩ := linked.activates a s before
      exact ⟨pointer, queue, newStreams, old s _ source (by simp)⟩

/-- Factories and activators without a source come and go. -/
theorem Linked.plain (linked : Linked sources shut h) {t : Heap} (next : h.next ≤ t.next)
    (new : ∀ a object, t.content a = some object →
      object = .factory ∨ object = .activator none ∨ h.content a = some object)
    (old : ∀ a object, h.content a = some object → (∀ pointer, object ≠ .activator pointer) →
      t.content a = some object) : Linked sources shut t := by
  constructor
  · intro s member
    exact Nat.lt_of_lt_of_le (linked.known s member) next
  · intro s pointer queue newStreams there
    rcases new s _ there with ⟨⟨⟩⟩ | ⟨⟨⟩⟩ | before
    exact linked.made s pointer queue newStreams before
  · intro s pointer queue newStreams there
    rcases new s _ there with ⟨⟨⟩⟩ | ⟨⟨⟩⟩ | before
    obtain ⟨x, same, events, stream, ended⟩ := linked.paired s pointer queue newStreams before
    exact ⟨x, same, events, old x _ stream (by simp), ended⟩
  · intro s member still
    obtain ⟨x, queue, newStreams, before⟩ := linked.whole s member still
    exact ⟨x, queue, newStreams, old s _ before (by simp)⟩
  · intro x s there
    rcases new x _ there with ⟨⟨⟩⟩ | ⟨⟨⟩⟩ | before
    obtain ⟨still, queue, newStreams, source⟩ := linked.bound x s before
    exact ⟨still, queue, newStreams, old s _ source (by simp)⟩
  · intro a s there
    rcases new a _ there with ⟨⟨⟩⟩ | ⟨⟨⟩⟩ | before
    obtain ⟨pointer, queue, newStreams, source⟩ := linked.activates a s before
    exact ⟨pointer, queue, newStreams, old s _ source (by simp)⟩

theorem Linked.alloc (linked : Linked sources shut h)
    (fresh : ∀ a, h.next ≤ a → h.content a = none) {object : Object}
    (plain : object = .factory ∨ object = .activator none) :
    Linked sources shut (h.alloc object) := by
  refine linked.plain (Nat.le_succ _) (fun a other there => ?_) fun a other there _ => ?_
  · rw [content_alloc] at there
    split at there
    · rw [← Option.some.inj there]
      exact plain.elim .inl fun activator => .inr (.inl activator)
    · exact .inr (.inr there)
  · rw [content_alloc, if_neg, there]
    rintro rfl
    rw [fresh _ (Nat.le_refl _)] at there
    cases there

theorem Linked.detached (linked : Linked sources shut h) {this : Nat} {pointer : Option Nat}
    (here : h.content this = some (.activator pointer)) :
    Linked sources shut (h.assign this (.activator none)) := by
  refine linked.plain (Nat.le_refl _) (fun a other there => ?_) fun a other there apart => ?_
  · rw [content_assign here] at there
    split at there
    · exact .inr (.inl (Option.some.inj there).symm)
    · exact .inr (.inr there)
  · rw [content_assign here, if_neg, there]
    rintro rfl
    rw [here, Option.some.injEq] at there
    exact apart pointer there.symm

/-- The queue of a source that is not shut down changes. -/
theorem Linked.requeued (linked : Linked sources shut h) {this stream : Nat} {queue : Bool}
    {newStreams : List Nat} (here : h.content this = some (.source (some stream) queue newStreams))
    (open_ : this ∉ shut) (later : Bool) (events : List Nat) (own : ∀ x ∈ events, x = stream) :
    Linked sources shut (h.assign this (.source (some stream) later events)) := by
  have contents (a : Nat) : (h.assign this (.source (some stream) later events)).content a =
      if a = this then some (.source (some stream) later events) else h.content a :=
    content_assign here
  have other (a : Nat) (object : Object) (there : h.content a = some object)
      (apart : ∀ pointer queue newStreams, object ≠ .source pointer queue newStreams) :
      (h.assign this (.source (some stream) later events)).content a = some object := by
    rw [contents, if_neg, there]
    rintro rfl
    rw [here, Option.some.injEq] at there
    exact apart _ _ _ there.symm
  have source (s : Nat) (pointer : Option Nat) (queue : Bool) (newStreams : List Nat)
      (there : h.content s = some (.source pointer queue newStreams)) :
      ∃ queue newStreams, (h.assign this (.source (some stream) later events)).content s =
        some (.source pointer queue newStreams) := by
    by_cases same : s = this
    · rw [same, here] at there
      cases there
      exact ⟨later, events, by rw [contents, if_pos same]⟩
    · exact ⟨queue, newStreams, by rw [contents, if_neg same, there]⟩
  constructor
  · exact linked.known
  · intro s pointer queue newStreams there
    rw [contents] at there
    split at there
    · rename_i same
      exact same ▸ linked.made this _ _ _ here
    · exact linked.made s pointer queue newStreams there
  · intro s pointer queue newStreams there
    rw [contents] at there
    split at there
    · rename_i same
      cases there
      obtain ⟨x, pointed, _, back, _⟩ := linked.paired this _ _ _ here
      cases pointed
      refine ⟨stream, rfl, own, ?_, fun member => absurd (same ▸ member) open_⟩
      rw [same]
      exact other stream _ back (by simp)
    · obtain ⟨x, pointed, inside, back, ended⟩ := linked.paired s pointer queue newStreams there
      exact ⟨x, pointed, inside, other x _ back (by simp), ended⟩
  · intro s member still
    obtain ⟨x, queue, newStreams, before⟩ := linked.whole s member still
    obtain ⟨queue, newStreams, now⟩ := source s _ _ _ before
    exact ⟨x, queue, newStreams, now⟩
  · intro x s there
    rw [contents] at there
    split at there
    · cases there
    · obtain ⟨still, queue, newStreams, before⟩ := linked.bound x s there
      exact ⟨still, source s _ _ _ before⟩
  · intro a s there
    rw [contents] at there
    split at there
    · cases there
    · obtain ⟨pointer, queue, newStreams, before⟩ := linked.activates a s there
      exact ⟨pointer, source s _ _ _ before⟩

/-- A source that is shut down, and its stream without it. -/
theorem Linked.cut (linked : Linked sources shut h) {this stream : Nat}
    (here : h.content this = some (.source (some stream) false []))
    (back : h.content stream = some (.stream (some this))) :
    Linked sources (this :: shut) (h.assign stream (.stream none)) := by
  have contents (a : Nat) : (h.assign stream (.stream none)).content a =
      if a = stream then some (.stream none) else h.content a := content_assign back
  have new (a : Nat) (object : Object) (there : (h.assign stream (.stream none)).content a =
      some object) (apart : object ≠ .stream none) : a ≠ stream ∧ h.content a = some object := by
    rw [contents] at there
    split at there
    · exact absurd (Option.some.inj there).symm apart
    · rename_i other
      exact ⟨other, there⟩
  have old (a : Nat) (object : Object) (there : h.content a = some object)
      (apart : object ≠ .stream (some this)) :
      (h.assign stream (.stream none)).content a = some object := by
    rw [contents, if_neg, there]
    rintro rfl
    rw [back, Option.some.injEq] at there
    exact apart there.symm
  constructor
  · rintro s (member | member)
    · exact linked.known s (.inl member)
    · rcases List.mem_cons.mp member with rfl | member
      · exact linked.known s (.inl (linked.made s _ _ _ here))
      · exact linked.known s (.inr member)
  · intro s pointer queue newStreams there
    exact linked.made s pointer queue newStreams (new s _ there (by simp)).2
  · intro s pointer queue newStreams there
    have before := (new s _ there (by simp)).2
    obtain ⟨x, pointed, inside, stream_back, ended⟩ :=
      linked.paired s pointer queue newStreams before
    by_cases same : s = this
    · rw [same, here] at before
      cases before
      cases pointed
      refine ⟨stream, rfl, inside, ?_, fun _ => ⟨rfl, rfl⟩⟩
      rw [contents, if_pos rfl, same, if_pos List.mem_cons_self]
    · have later : s ∈ this :: shut ↔ s ∈ shut := by
        simp only [List.mem_cons, same, false_or]
      refine ⟨x, pointed, inside, ?_, fun member => ended (later.mp member)⟩
      simp only [later]
      apply old x _ stream_back
      split
      · simp
      · simp [same]
  · intro s member still
    rw [List.mem_cons, not_or] at still
    obtain ⟨x, queue, newStreams, before⟩ := linked.whole s member still.2
    exact ⟨x, queue, newStreams, old s _ before (by simp)⟩
  · intro x s there
    obtain ⟨apart, before⟩ := new x _ there (by simp)
    obtain ⟨still, queue, newStreams, source⟩ := linked.bound x s before
    refine ⟨?_, queue, newStreams, old s _ source (by simp)⟩
    rw [List.mem_cons, not_or]
    refine ⟨?_, still⟩
    rintro rfl
    rw [here] at source
    cases source
    exact apart rfl
  · intro a s there
    obtain ⟨pointer, queue, newStreams, before⟩ := linked.activates a s (new a _ there (by simp)).2
    exact ⟨pointer, queue, newStreams, old s _ before (by simp)⟩

end Pieces

section Calls

variable {d : Dll}

theorem Inv.held (inv : Inv d) {object : Nat} (member : object ∈ d.clients) :
    d.heap.content object ≠ none := by
  obtain ⟨c, here⟩ := inv.accounted.live member
  rw [Heap.content, here]
  simp

/-- What an object refers to is there. -/
theorem Inv.referred (inv : Inv d) {holder object : Nat} {content : Object}
    (here : d.heap.content holder = some content) (member : object ∈ content.held) :
    d.heap.content object ≠ none := by
  obtain ⟨n, there⟩ := Heap.cells_of_content here
  obtain ⟨c, live⟩ := inv.accounted.held_live there member
  rw [Heap.content, live]
  simp

theorem Inv.give (inv : Inv d) {object : Nat} (live : d.heap.content object ≠ none)
    (answered : Bool) : ∃ u, d.give object answered = some u ∧ Inv u := by
  obtain ⟨h, asked, accounted, next, same⟩ :=
    query_counts inv.accounted object answered fun _ => live
  refine ⟨{ d with heap := h, clients := given object answered d.clients }, ?_, accounted, ?_⟩
  · simp only [Dll.give, asked, Option.bind_eq_bind, Option.bind_some, Option.pure_def]
  · exact inv.linked.same (Nat.le_of_eq next.symm) same

theorem Inv.giveBack (inv : Inv d) {object : Nat} (member : object ∈ d.clients) :
    ∃ u, d.giveBack object = some u ∧ Inv u := by
  have accounted : Accounted Object.held ([object] ++ d.clients.erase object) d.heap :=
    inv.accounted.reorder fun a => ((List.perm_cons_erase member).count_eq a).symm
  obtain ⟨h, dropped, left, shrinks⟩ := accounted.release
  refine ⟨{ d with heap := h, clients := d.clients.erase object }, ?_, left,
    inv.linked.shrinks shrinks left⟩
  simp only [Dll.giveBack, drop, dropped, Option.bind_eq_bind, Option.bind_some, Option.pure_def]

theorem Inv.getClassObject (inv : Inv d) (known answered : Bool) :
    ∃ u, d.getClassObject known answered = some u ∧ Inv u := by
  cases known with
  | false => exact ⟨d, rfl, inv⟩
  | true =>
      have made : Accounted Object.held (d.heap.next :: d.clients) (d.heap.alloc .factory) :=
        Accounted.alloc inv.accounted
      have linked : Linked d.sources d.shut (d.heap.alloc .factory) :=
        inv.linked.alloc (fun a => inv.accounted.content_none) (.inl rfl)
      have live : (d.heap.alloc .factory).content d.heap.next ≠ none := by
        rw [content_alloc, if_pos rfl]
        simp
      obtain ⟨h, asked, accounted, next, same⟩ :=
        query_counts made d.heap.next answered fun _ => live
      have accounted : Accounted Object.held
          ([d.heap.next] ++ given d.heap.next answered d.clients) h := by
        cases answered <;> exact accounted
      obtain ⟨t, dropped, left, shrinks⟩ := accounted.release
      refine ⟨{ d with heap := t, clients := given d.heap.next answered d.clients }, ?_, left, ?_⟩
      · simp only [Dll.getClassObject, ↓reduceIte, asked, drop, dropped, Option.bind_eq_bind,
          Option.bind_some, Option.pure_def]
      · exact (linked.same (Nat.le_of_eq next.symm) same).shrinks shrinks left

theorem Inv.createInstance (inv : Inv d) (outer initialized answered : Bool) :
    ∃ u, d.createInstance outer initialized answered = some u ∧ Inv u := by
  cases outer with
  | true => exact ⟨d, rfl, inv⟩
  | false =>
      have made : Accounted Object.held (d.heap.next :: d.clients)
          (d.heap.alloc (.activator none)) := Accounted.alloc inv.accounted
      have linked : Linked d.sources d.shut (d.heap.alloc (.activator none)) :=
        inv.linked.alloc (fun a => inv.accounted.content_none) (.inr rfl)
      have here : (d.heap.alloc (.activator none)).content d.heap.next =
          some (.activator none) := by
        rw [content_alloc, if_pos rfl]
      obtain ⟨h, built, accounted, grown⟩ := initializeActivator_makes initialized made here
      have linked := linked.grown (fun a => made.content_none) grown here
      have live : h.content d.heap.next ≠ none := by
        rw [grown.activator]
        simp
      obtain ⟨t, asked, accounted, next, same⟩ :=
        query_counts accounted d.heap.next (initialized && answered) fun _ => live
      have accounted : Accounted Object.held
          ([d.heap.next] ++ given d.heap.next (initialized && answered) d.clients) t := by
        cases initialized <;> cases answered <;> exact accounted
      obtain ⟨u, dropped, left, shrinks⟩ := accounted.release
      refine ⟨{ d with
        heap := u
        clients := given d.heap.next (initialized && answered) d.clients
        sources := (d.heap.next + 1) :: d.sources }, ?_, left, ?_⟩
      · simp only [Dll.createInstance, Bool.false_eq_true, ↓reduceIte, built, asked, drop, dropped,
          Option.bind_eq_bind, Option.bind_some, Option.pure_def]
      · exact (linked.same (Nat.le_of_eq next.symm) same).shrinks shrinks left

theorem Inv.detachObject (inv : Inv d) {this : Nat} {pointer : Option Nat}
    (here : d.heap.content this = some (.activator pointer)) :
    ∃ u, d.detachObject this pointer = some u ∧ Inv u := by
  obtain ⟨n, there⟩ := Heap.cells_of_content here
  have accounted : Accounted Object.held (pointer.toList ++ d.clients)
      (d.heap.assign this (.activator none)) := by
    refine inv.accounted.assign there fun q => ?_
    simp only [Object.held, Option.toList_none, List.count_nil, List.count_append]
    omega
  obtain ⟨t, dropped, left, shrinks⟩ := accounted.release
  refine ⟨{ d with heap := t }, ?_, left, (inv.linked.detached here).shrinks shrinks left⟩
  simp only [Dll.detachObject, drop, dropped, Option.bind_eq_bind, Option.bind_some,
    Option.pure_def]

theorem Inv.announce (inv : Inv d) {this stream : Nat} {newStreams : List Nat}
    (here : d.heap.content this = some (.source (some stream) true newStreams)) :
    ∃ u, d.announce this stream newStreams = some u ∧ Inv u := by
  obtain ⟨x, pointed, inside, back, ended⟩ := inv.linked.paired this _ _ _ here
  cases pointed
  have open_ : this ∉ d.shut := fun member => Bool.noConfusion (ended member).1
  obtain ⟨n, there⟩ := Heap.cells_of_content back
  obtain ⟨h, counted, accounted, cells⟩ := inv.accounted.addRef there
  have same (a : Nat) : h.content a = d.heap.content a := content_addRef counted
  have linked : Linked d.sources d.shut h := by
    refine inv.linked.same ?_ same
    rw [Heap.addRef, there, Option.map_some, Option.some.injEq] at counted
    rw [← counted]
    exact Nat.le_refl _
  have now : h.content this = some (.source (some stream) true newStreams) := by
    rw [same, here]
  obtain ⟨m, again⟩ := Heap.cells_of_content now
  refine ⟨{ d with heap := h.assign this (.source (some stream) true (newStreams ++ [stream])) },
    ?_, ?_, ?_⟩
  · simp only [Dll.announce, counted, Option.bind_eq_bind, Option.bind_some, Option.pure_def]
  · refine accounted.assign again fun q => ?_
    simp only [Object.held, List.count_append, List.count_cons, List.count_nil]
    omega
  · refine linked.requeued now open_ true _ fun x member => ?_
    rcases List.mem_append.mp member with old | new
    · exact inside x old
    · exact List.mem_singleton.mp new

theorem Inv.getEvent (inv : Inv d) {this first : Nat} {pointer : Option Nat} {rest : List Nat}
    (here : d.heap.content this = some (.source pointer true (first :: rest))) :
    Inv (d.getEvent this pointer first rest) := by
  obtain ⟨stream, pointed, inside, _, ended⟩ := inv.linked.paired this _ _ _ here
  cases pointed
  have open_ : this ∉ d.shut := fun member => Bool.noConfusion (ended member).1
  obtain ⟨n, there⟩ := Heap.cells_of_content here
  constructor
  · refine inv.accounted.assign there fun q => ?_
    show _ + (first :: d.clients).count q = _
    simp only [Object.held, List.count_append, List.count_cons]
    omega
  · exact inv.linked.requeued here open_ true rest fun x member =>
      inside x (List.mem_cons_of_mem first member)

theorem Inv.shutdown (inv : Inv d) {this stream : Nat} {newStreams : List Nat}
    (here : d.heap.content this = some (.source (some stream) true newStreams)) :
    ∃ u, d.shutdown this stream newStreams = some u ∧ Inv u := by
  obtain ⟨x, pointed, _, back, ended⟩ := inv.linked.paired this _ _ _ here
  cases pointed
  have open_ : this ∉ d.shut := fun member => Bool.noConfusion (ended member).1
  rw [if_neg open_] at back
  -- the queue gives up its events
  obtain ⟨n, there⟩ := Heap.cells_of_content here
  have accounted : Accounted Object.held (newStreams ++ d.clients)
      (d.heap.assign this (.source (some stream) false [])) := by
    refine inv.accounted.assign there fun q => ?_
    simp only [Object.held, List.count_append, List.append_nil]
    omega
  have linked : Linked d.sources d.shut (d.heap.assign this (.source (some stream) false [])) :=
    inv.linked.requeued here open_ false [] (by simp)
  have contents (a : Nat) : (d.heap.assign this (.source (some stream) false [])).content a =
      if a = this then some (.source (some stream) false []) else d.heap.content a :=
    content_assign here
  have apart : stream ≠ this := by
    rintro rfl
    rw [here] at back
    cases back
  have source : (d.heap.assign this (.source (some stream) false [])).content this =
      some (.source (some stream) false []) := by
    rw [contents, if_pos rfl]
  obtain ⟨h, dropped, left, shrinks⟩ := accounted.release
  have closed := linked.closed source open_
  have source := shrinks.closed_content closed (.inl rfl) source
  have back : h.content stream = some (.stream (some this)) := by
    apply shrinks.closed_content closed (.inr rfl)
    rw [contents, if_neg apart, back]
  -- the stream gives up its source
  obtain ⟨m, again⟩ := Heap.cells_of_content back
  have accounted : Accounted Object.held ([this] ++ d.clients)
      (h.assign stream (.stream none)) := by
    refine left.assign again fun q => ?_
    simp only [Object.held, Option.toList_some, Option.toList_none, List.count_nil,
      List.count_append]
    omega
  have cut := (linked.shrinks shrinks left).cut source back
  obtain ⟨t, cleared, left, shrinks⟩ := accounted.release
  refine ⟨{ d with heap := t, shut := this :: d.shut }, ?_, left, cut.shrinks shrinks left⟩
  simp only [Dll.shutdown, drop, dropped, shutdownStream, back, Option.toList_some, cleared,
    Option.bind_eq_bind, Option.bind_some, Option.pure_def]

theorem Inv.source_of (inv : Inv d) {source : Nat}
    (allowed : (d.clients.contains source && match d.heap.content source with
      | some (.source _ _ _) => true
      | _ => false) = true) : ∃ stream queue newStreams,
    d.heap.content source = some (.source (some stream) queue newStreams) := by
  rw [Bool.and_eq_true] at allowed
  obtain ⟨_, kind⟩ := allowed
  split at kind
  · rename_i pointer queue newStreams here
    obtain ⟨stream, rfl, _⟩ := inv.linked.paired source _ _ _ here
    exact ⟨stream, queue, newStreams, here⟩
  · cases kind

/-- The step lemma: no call goes to an object that is gone. -/
theorem inv_step (inv : Inv d) {call : Call} (allowed : call.allowed d = true) :
    ∃ u, step d call = some u ∧ Inv u := by
  cases call with
  | getClassObject known answered => exact inv.getClassObject known answered
  | createInstance factory outer initialized answered =>
      simp only [Call.allowed, Bool.and_eq_true, beq_iff_eq] at allowed
      rw [step, allowed.2]
      exact inv.createInstance outer initialized answered
  | queryInterface object answered =>
      exact inv.give (inv.held (List.contains_iff_mem.mp allowed)) answered
  | release object => exact inv.giveBack (List.contains_iff_mem.mp allowed)
  | activateObject activator answered =>
      simp only [Call.allowed, Bool.and_eq_true] at allowed
      obtain ⟨_, kind⟩ := allowed
      split at kind
      · rename_i source here
        rw [step, here]
        exact inv.give (inv.referred here (by simp [Object.held])) answered
      · cases kind
  | shutdownObject activator =>
      simp only [Call.allowed, Bool.and_eq_true] at allowed
      obtain ⟨_, kind⟩ := allowed
      split at kind
      · rename_i pointer here
        rw [step, here]
        exact ⟨d, rfl, inv⟩
      · cases kind
  | detachObject activator =>
      simp only [Call.allowed, Bool.and_eq_true] at allowed
      obtain ⟨_, kind⟩ := allowed
      split at kind
      · rename_i pointer here
        rw [step, here]
        exact inv.detachObject here
      · cases kind
  | shutdown source =>
      obtain ⟨stream, queue, newStreams, here⟩ := inv.source_of allowed
      rw [step, here]
      cases queue with
      | false => exact ⟨d, rfl, inv⟩
      | true => exact inv.shutdown here
  | start source =>
      obtain ⟨stream, queue, newStreams, here⟩ := inv.source_of allowed
      rw [step, here]
      cases queue with
      | false => exact ⟨d, rfl, inv⟩
      | true => exact inv.announce here
  | getEvent source =>
      obtain ⟨stream, queue, newStreams, here⟩ := inv.source_of allowed
      rw [step, here]
      cases queue with
      | false => exact ⟨d, rfl, inv⟩
      | true =>
          cases newStreams with
          | nil => exact ⟨d, rfl, inv⟩
          | cons first rest => exact ⟨_, rfl, inv.getEvent here⟩
  | getStreamAttributes source answered =>
      obtain ⟨stream, queue, newStreams, here⟩ := inv.source_of allowed
      rw [step, here]
      exact inv.give (inv.referred here (by simp [Object.held])) answered
  | getMediaSource stream answered =>
      simp only [Call.allowed, Bool.and_eq_true] at allowed
      obtain ⟨_, kind⟩ := allowed
      split at kind
      · rename_i pointer here
        rw [step, here]
        cases pointer with
        | none => exact ⟨d, rfl, inv⟩
        | some source => exact inv.give (inv.referred here (by simp [Object.held])) answered
      · cases kind

theorem run_inv (inv : Inv d) {calls : List Call}
    (allowed : Along step (fun d call => call.allowed d = true) d calls) :
    ∃ u, run step d calls = some u ∧ Inv u := by
  induction calls generalizing d with
  | nil => exact ⟨d, rfl, inv⟩
  | cons call rest ih =>
      obtain ⟨t, taken, kept⟩ := inv_step inv allowed.1
      obtain ⟨u, ran, last⟩ := ih kept (allowed.2 t taken)
      refine ⟨u, ?_, last⟩
      rw [run_cons, taken]
      exact ran

theorem inv_loaded : Inv .loaded where
  accounted := accounted_empty
  linked := by
    constructor
    · rintro s (⟨⟨⟩⟩ | ⟨⟨⟩⟩)
    · rintro _ _ _ _ ⟨⟩
    · rintro _ _ _ _ ⟨⟩
    · rintro _ ⟨⟩
    · rintro _ _ ⟨⟩
    · rintro _ _ ⟨⟩

end Calls

section Left

variable {d : Dll}

/-- Only sources and streams are held by other objects. -/
theorem Inv.holds (inv : Inv d) {a b : Nat} {object : Object}
    (here : d.heap.content b = some object) (member : a ∈ object.held) :
    (∃ pointer queue newStreams, d.heap.content a = some (.source pointer queue newStreams) ∧
        (object = .activator (some a) ∨ object = .stream (some a))) ∨
      (∃ pointer, d.heap.content a = some (.stream pointer)) ∧
        ∃ queue newStreams, object = .source (some a) queue newStreams := by
  cases object with
  | factory => cases member
  | activator pointer =>
      have same : pointer = some a := Option.mem_toList.mp member
      subst same
      obtain ⟨pointer, queue, newStreams, there⟩ := inv.linked.activates b a here
      exact .inl ⟨pointer, queue, newStreams, there, .inl rfl⟩
  | source pointer queue newStreams =>
      obtain ⟨stream, pointed, inside, there, _⟩ := inv.linked.paired b _ _ _ here
      subst pointed
      have same : a = stream := by
        rcases List.mem_append.mp member with first | event
        · exact List.mem_singleton.mp first
        · exact inside a event
      subst same
      exact .inr ⟨⟨_, there⟩, queue, newStreams, rfl⟩
  | stream pointer =>
      have same : pointer = some a := Option.mem_toList.mp member
      subst same
      obtain ⟨_, queue, newStreams, there⟩ := inv.linked.bound b a here
      exact .inl ⟨_, queue, newStreams, there, .inr rfl⟩

/-- Nothing but another object keeps an object once the clients are gone. -/
theorem Inv.holder (inv : Inv d) (alone : d.clients = []) {a : Nat} {content : Object}
    (here : d.heap.content a = some content) :
    ∃ b object, d.heap.content b = some object ∧ a ∈ object.held := by
  have accounted := inv.accounted
  rw [alone] at accounted
  obtain ⟨n, there⟩ := Heap.cells_of_content here
  obtain ⟨b, c, holder, member⟩ := accounted.holder there
  exact ⟨b, c.content, by rw [Heap.content, holder, Option.map_some], member⟩

/-- No activator is left then, and no source that was shut down. -/
theorem Inv.source_open (inv : Inv d) (alone : d.clients = []) {s : Nat} {pointer : Option Nat}
    {queue : Bool} {newStreams : List Nat}
    (here : d.heap.content s = some (.source pointer queue newStreams)) : s ∉ d.shut := by
  obtain ⟨b, object, there, member⟩ := inv.holder alone here
  rcases inv.holds there member with ⟨_, _, _, _, rfl | rfl⟩ | ⟨⟨_, stream⟩, _⟩
  · obtain ⟨x, other, holder, inside⟩ := inv.holder alone there
    rcases inv.holds holder inside with ⟨_, _, _, source, _⟩ | ⟨⟨_, stream⟩, _⟩
    · rw [there] at source
      cases source
    · rw [there] at stream
      cases stream
  · exact (inv.linked.bound b s there).1
  · rw [here] at stream
    cases stream

/-- A source that is not shut down, or its stream. -/
def Dll.InOpen (d : Dll) (a : Nat) : Prop :=
  ∃ s ∈ d.sources, s ∉ d.shut ∧
    (a = s ∨ ∃ queue newStreams, d.heap.content s = some (.source (some a) queue newStreams))

theorem Inv.left (inv : Inv d) (alone : d.clients = []) (a : Nat) :
    d.heap.live a = true ↔ d.InOpen a := by
  have live_of {a : Nat} (there : d.heap.content a ≠ none) : d.heap.live a = true := by
    obtain ⟨content, here⟩ := Option.ne_none_iff_exists'.mp there
    obtain ⟨n, cell⟩ := Heap.cells_of_content here
    rw [Heap.live, cell]
    rfl
  constructor
  · intro live
    obtain ⟨c, cell⟩ := Option.isSome_iff_exists.mp live
    have here : d.heap.content a = some c.content := by
      rw [Heap.content, cell, Option.map_some]
    obtain ⟨b, object, there, member⟩ := inv.holder alone here
    rcases inv.holds there member with ⟨_, _, _, source, _⟩ | ⟨_, queue, newStreams, rfl⟩
    · exact ⟨a, inv.linked.made a _ _ _ source, inv.source_open alone source, .inl rfl⟩
    · exact ⟨b, inv.linked.made b _ _ _ there, inv.source_open alone there,
        .inr ⟨queue, newStreams, there⟩⟩
  · rintro ⟨s, member, open_, rfl | ⟨queue, newStreams, here⟩⟩
    · obtain ⟨stream, queue, newStreams, here⟩ := inv.linked.whole a member open_
      exact live_of (by rw [here]; simp)
    · exact live_of (inv.referred here (by simp [Object.held]))

theorem Inv.unloads (inv : Inv d) (alone : d.clients = []) :
    d.canUnloadNow = true ↔ ∀ s ∈ d.sources, s ∈ d.shut := by
  simp only [Dll.canUnloadNow, List.all_eq_true, List.mem_range, Bool.not_eq_true']
  constructor
  · intro gone s member
    by_contra open_
    have live := (inv.left alone s).mpr ⟨s, member, open_, .inl rfl⟩
    rw [gone s (inv.linked.known s (.inl member))] at live
    cases live
  · intro ended a _
    rw [← Bool.not_eq_true]
    intro live
    obtain ⟨s, member, open_, _⟩ := (inv.left alone a).mp live
    exact open_ (ended s member)

end Left

/-- A camera that is used and shut down, and one that is only made. -/
def visits : List Call :=
  [.getClassObject true true, .createInstance 0 false true true, .activateObject 1 true,
    .start 2, .getEvent 2, .detachObject 1, .shutdown 2, .getMediaSource 3 true, .release 3,
    .release 2, .release 1, .createInstance 0 false true true, .shutdownObject 4, .release 4,
    .release 0]

example : (run step .loaded visits).map (fun d => (d.clients, d.canUnloadNow)) =
    some ([], false) := by decide

end Obs2Mf.Vcam.Objects
