import Obs2Mf.Broker.Coupling
import Obs2Mf.Vcam.FrameGenerator

set_option autoImplicit false

/- From the producer's buffer to the consumer's picture: what a client of the pipe is
handed is a frame the producer made, and the media source shows it byte for byte. -/
namespace Obs2Mf.Broker.Process

open Pipe (Byte FrameHeader Frame)
open Run
open Vcam (FrameGenerator Locked)

variable {C : Type}

/-- The header fields of every frame the producer announces, and the size behind them. -/
structure Packed (p : Published) : Prop where
  fourcc : p.hdr.fourcc = Pipe.kFourccNV12
  width : p.hdr.width = .ofNat 32 kW
  height : p.hdr.height = .ofNat 32 kH
  stride : p.hdr.stride = .ofNat 32 kW
  flags : p.hdr.flags = Pipe.flag_valid
  length : p.payload.length = kFrameBytes

/-- The invariant of the capture, with the shape of what it has published. -/
structure Producing (bars : Int → Int × Int × Int) (p : Broker.State) : Prop where
  inv : Inv bars p
  packed : ∀ q ∈ p.published, Packed q

section Producer

variable {bars : Int → Int × Int × Int}

theorem producing_initial : Producing bars .initial where
  inv := inv_initial bars
  packed := by simp [Broker.State.initial]

theorem publish_packed {p : Broker.State} (held : Inv bars p) (now : BitVec 64) :
    Packed ⟨p.header now, p.frame.take (p.header now).byteLength.toNat, p.src, p.seen, p.obs.srcW,
      p.obs.srcH⟩ where
  fourcc := rfl
  width := rfl
  height := rfl
  stride := rfl
  flags := rfl
  length := by
    show (p.frame.take (BitVec.ofNat 32 kFrameBytes).toNat).length = kFrameBytes
    rw [kFrameBytes_fits, List.length_take, held.sized, Nat.min_self]

theorem producing_step (p : Broker.State) (a : Broker.Action) (q : Broker.State)
    (held : Producing bars p) (sized : Sized p a) (taken : Broker.step bars p a = some q) :
    Producing bars q := by
  refine ⟨step_inv p a q held.inv sized taken, ?_⟩
  cases a with
  | publish now =>
      simp only [Broker.step] at taken
      split at taken
      · cases taken
        intro r member
        rcases List.mem_append.mp member with old | new
        · exact held.packed r old
        · rw [List.mem_singleton.mp new]
          exact publish_packed held.inv now
      · cases taken
  | _ =>
      rw [own_published (by simp) taken]
      exact held.packed

end Producer

/-- The media source's size, `NUM_IMAGE_COLS` by `NUM_IMAGE_ROWS`. -/
structure Sole (g : FrameGenerator) : Prop where
  width : g.width = 1280#32
  height : g.height = 720#32

/-- Whenever a generator of the camera's size fetches this frame, it shows every byte of
it in its place, whatever the pitch of the buffer. -/
def Shown (d : Pipe.Delivery) : Prop :=
  ∀ (fallback : FrameGenerator → Locked → HRESULT × (Int → Byte)) (beyond : Nat → Byte)
    (g : FrameGenerator) (dst : Locked), Sole g →
    (g.pipe.fetch .zero g.pipeBuf).ok = true → (g.pipe.fetch .zero g.pipeBuf).hdr = d.hdr →
    (g.pipe.fetch .zero g.pipeBuf).payload = d.payload → 1280 ≤ dst.pitch →
    let shot := FrameGenerator.generate fallback beyond g (.ok dst)
    shot.hr = .sOk ∧ shot.served = true ∧
      ∀ y x : Nat, y < 1080 → x < 1280 →
        d.payload[y * 1280 + x]? = some (shot.scanline (y * dst.pitch + x))

/-- A packed frame that was fetched is copied row by row. -/
theorem generate_tight (fallback : FrameGenerator → Locked → HRESULT × (Int → Byte))
    (beyond : Nat → Byte) (g : FrameGenerator) (dst : Locked)
    (fetched : (g.pipe.fetch .zero g.pipeBuf).ok = true)
    (tight : g.Tight (g.pipe.fetch .zero g.pipeBuf).hdr (g.pipe.fetch .zero g.pipeBuf).payload)
    (pitch : (g.width.toNat : Int) ≤ dst.pitch) :
    let shot := FrameGenerator.generate fallback beyond g (.ok dst)
    shot.hr = .sOk ∧ shot.served = true ∧
      ∀ y x : Nat, y < g.height.toNat + g.height.toNat / 2 → x < g.width.toNat →
        (g.pipe.fetch .zero g.pipeBuf).payload[y * g.width.toNat + x]? =
          some (shot.scanline (y * dst.pitch + x)) := by
  have live : ((g.pipe.fetch .zero g.pipeBuf).ok && FrameGenerator.accepts
      { g with
        pipe := (g.pipe.fetch .zero g.pipeBuf).client
        pipeBuf := (g.pipe.fetch .zero g.pipeBuf).payload }
      (g.pipe.fetch .zero g.pipeBuf).hdr (g.pipe.fetch .zero g.pipeBuf).payload) = true :=
    Bool.and_eq_true_iff.mpr ⟨fetched, (tight.refetched _ _).accepts⟩
  dsimp only [FrameGenerator.generate]
  rw [if_pos live]
  refine ⟨rfl, rfl, ?_⟩
  intro y x below right
  have inside := tight.inside below right
  have copied := Copies.applyCopies_rows_inside
    (FrameGenerator.heapAt (g.pipe.fetch .zero g.pipeBuf).payload beyond) dst.scanline 0 0
    (FrameGenerator.srcStride (g.pipe.fetch .zero g.pipeBuf).hdr) pitch below right
  rw [Int.zero_add, Nat.zero_add, tight.srcStride] at copied
  dsimp only
  rw [FrameGenerator.rowCopies_eq, tight.srcStride]
  show _ = some (Copies.applyCopies _ _
    (Copies.rows _ 0 dst.pitch 0 g.width.toNat g.width.toNat) _)
  rw [copied, FrameGenerator.heapAt, List.getD_eq_getElem?_getD, List.getElem?_eq_getElem inside,
    Option.getD_some]

theorem Packed.tight {p : Published} (packed : Packed p) {g : FrameGenerator} (sole : Sole g) :
    g.Tight p.hdr.stamped p.payload where
  fourcc := packed.fourcc
  width := packed.width.trans sole.width.symm
  height := packed.height.trans sole.height.symm
  stride := packed.stride.trans sole.width.symm
  whole := by
    rw [packed.length, sole.width, sole.height]
    decide

theorem Packed.shown {p : Published} (packed : Packed p) {d : Pipe.Delivery}
    (hdr : d.hdr = p.hdr.stamped) (payload : d.payload = p.payload) : Shown d := by
  intro fallback beyond g dst sole fetched head body pitch
  have tight := packed.tight sole
  rw [← hdr, ← payload, ← head, ← body] at tight
  have width : g.width.toNat = 1280 := by rw [sole.width]; rfl
  have height : g.height.toNat = 720 := by rw [sole.height]; rfl
  have shows := generate_tight fallback beyond g dst fetched tight (by rw [width]; exact pitch)
  rw [width, height, body] at shows
  exact shows

/-- What a consumer may rely on in a frame it was handed: the producer made it as frame
number `index`, so that it is the newest capture scaled or the test pattern of that number,
it is no older than what was published when the consumer asked, and the camera shows it. -/
structure Seen (bars : Int → Int × Int × Int) (made : List Published) (d : Pipe.Delivery)
    (index : Nat) : Prop where
  produced : ∃ p, made[index]? = some p ∧ p.Faithful bars index ∧ d.hdr = p.hdr.stamped ∧
    d.payload = p.payload
  sequence : d.hdr.sequence.toNat = index % 2 ^ 32
  length : d.payload.length = kFrameBytes
  recent : d.since ≤ index + 1
  shown : Shown d

theorem Coupled.produced {s : State C} (held : Coupled s) {index : Nat} {f : Frame}
    (there : s.pipe.published[index]? = some f) :
    ∃ p, s.producer.published[index]? = some p ∧ made p = sent f := by
  have content := congrArg (fun list => list[index]?) held.content
  have inside : index < (s.pipe.published.map sent).length := by
    rw [List.length_map]
    exact (List.getElem?_eq_some_iff.mp there).1
  simp only [List.getElem?_append_left inside, List.getElem?_map, there, Option.map_some,
    Option.map_eq_some_iff] at content
  exact content

theorem Producing.seen {bars : Int → Int × Int × Int} {s : State C}
    (producing : Producing bars s.producer) (coupled : Coupled s) {d : Pipe.Delivery} {index : Nat}
    (known : d.Of s.pipe.published index) : Seen bars s.producer.published d index := by
  obtain ⟨f, there, hdr, payload⟩ := known.frame
  obtain ⟨p, found, same⟩ := coupled.produced there
  obtain ⟨sameHdr, samePayload⟩ := Prod.mk.inj same
  rw [← sameHdr] at hdr
  rw [← samePayload] at payload
  have faithful := producing.inv.faithful index p found
  have packed := producing.packed p (List.mem_of_getElem? found)
  refine ⟨⟨p, found, faithful, hdr, payload⟩, ?_, ?_, known.recent, packed.shown hdr payload⟩
  · rw [hdr]
    exact faithful.sequence
  · rw [payload, packed.length]

section Runs

variable [DecidableEq C] {bars : Int → Int × Int × Int}

theorem run_producing (actions : List (Action C)) (s : State C)
    (captured : Along (step bars) Captured (.initial C) actions)
    (ends : run (step bars) (.initial C) actions = some s) : Producing bars s.producer := by
  have projects : Projects (step bars) (Broker.step bars) (fun s : State C => s.producer)
      Captured Sized := step_producer
  obtain ⟨own, sized, ended⟩ := projects.run actions _ s captured ends
  exact invariant_along producing_step own .initial s.producer producing_initial sized ended

theorem run_leashed (actions : List (Action C)) (s : State C)
    (ends : run (step bars) (.initial C) actions = some s) : s.producer.Leashed := by
  have keep (u : State C) (a : Action C) (t : State C) (held : u.producer.Leashed)
      (taken : step bars u a = some t) : t.producer.Leashed := by
    have moves : Moves (Broker.step bars) (fun _ _ => True) u.producer t.producer :=
      step_capture u a t (fun _ _ => trivial) (fun _ _ => trivial) taken
    exact moves.invariant (fun p b q held _ => leashed_step p b q held) held
  exact invariant_run keep actions _ s leashed_initial ends

theorem run_pipe (actions : List (Action C)) (s : State C)
    (ends : run (step bars) (.initial C) actions = some s) : Pipe.Reachable s.pipe := by
  have projects : Projects (step bars) Pipe.step (fun s : State C => s.pipe)
      (fun _ _ => True) (fun _ _ => True) := step_pipe
  obtain ⟨own, _, ended⟩ := projects.run actions _ s
    (along_of_forall actions _ fun _ _ _ => trivial) ends
  exact ⟨_, own, rfl, ended⟩

theorem run_coupled (actions : List (Action C)) (s : State C)
    (ends : run (step bars) (.initial C) actions = some s) : Coupled s :=
  invariant_run step_coupled actions _ s coupled_initial ends

end Runs

end Obs2Mf.Broker.Process
