import Obs2Mf.Broker.Graph

set_option autoImplicit false

/- `FindObsSource`: whatever the devices answer, what the search was handed out is given up
again but for the source, as long as every device that is asked has a name. -/
namespace Obs2Mf.Broker.Graph

open Method References

/-- The device is the source, if it is looked at. -/
def Device.isSource (d : Device) : Bool :=
  d.bindToStorage && match d.friendlyName with
    | .string (some name) => isObs name && d.bindToObject
    | _ => false

/-- The string that `wcsstr` would be given is a null pointer. -/
def Device.nameless (d : Device) : Bool := d.bindToStorage && d.friendlyName == .string none

def Device.line (d : Device) : List ObsLine :=
  match d.bindToStorage, d.friendlyName with
  | true, .string bstrVal => [.device bstrVal]
  | _, _ => []

def Capture.saying (c : Capture) (lines : List ObsLine) : Capture :=
  { c with log := c.log ++ lines }

section Search

variable {c : Capture} {l : Ledger} {refs : List Ref} {next : Option Ref → Owner Capture → Prop}
  {returned : Bool → Owner Capture → Prop}

theorem ends_tryDevice {d : Device} {bstrVal : Option String} {m found : Option Ref}
    (owns : Owns (m.toList ++ (found.toList ++ refs)) l) (mLive : m.isSome = true)
    (named : found = none → bstrVal ≠ none)
    (given : ∀ l after,
      after.isSome = (found.isSome || bstrVal.any fun name => isObs name && d.bindToObject) →
      Owns (m.toList ++ (after.toList ++ refs)) l →
      next after ⟨l, c.saying [.device bstrVal]⟩) :
    (tryDevice d bstrVal m found).Ends ⟨l, c⟩ next returned := by
  rw [tryDevice, ends_bind, logF, ends_assign, ends_ite]
  constructor
  · intro live
    exact given l found (by rw [live, Bool.true_or]) owns
  · intro null
    rw [Option.not_isSome_iff_eq_none] at null
    subst null
    cases bstrVal with
    | none => exact (named rfl rfl).elim
    | some name =>
        rw [ends_bind, ends_deref_some, ends_ite]
        constructor
        · intro obs
          rw [ends_bind, ends_use owns mLive held_first]
          refine ends_obtain owns fun after l some owns => ?_
          refine given l after ?_ (owns.reorder fun r => ?_)
          · simpa [obs] using some
          · simp only [List.count_append, Option.toList_none, List.nil_append]
            omega
        · intro other
          exact given l none (by simp [other]) owns

/-- One device: its locals are given up, whatever its name and whether it was bound. -/
theorem ends_inspect {d : Device} {m bag found : Option Ref}
    (owns : Owns (bag.toList ++ (m.toList ++ (found.toList ++ refs))) l)
    (bagLive : bag.isSome = true) (mLive : m.isSome = true) (storage : d.bindToStorage = true)
    (named : found = none → d.nameless = false)
    (given : ∀ l after, after.isSome = (found.isSome || d.isSource) →
      Owns (m.toList ++ (after.toList ++ refs)) l → next after ⟨l, c.saying d.line⟩) :
    (inspect d m bag found).Ends ⟨l, c⟩ next returned := by
  have quiet : c.saying [] = c := by simp [Capture.saying]
  rw [inspect, ends_bind, ends_use owns bagLive held_first, ends_bind]
  refine ends_obtain owns fun v l _ owns => ?_
  -- what follows the name gives up the VARIANT and the bag
  have rest (l : Ledger) (c : Capture) (after : Option Ref)
      (owns : Owns (v.toList ++ (bag.toList ++ (m.toList ++ (after.toList ++ refs)))) l)
      (goes : ∀ l, Owns (m.toList ++ (after.toList ++ refs)) l → next after ⟨l, c⟩) :
      (do
        onlyIf v.isSome (release v)
        release bag
        pure after : ObsMethod (Option Ref)).Ends ⟨l, c⟩ next returned := by
    rw [ends_bind]
    refine ends_releaseIf owns fun l owns => ?_
    rw [ends_bind]
    exact ends_release owns bagLive fun l owns => goes l owns
  have line (bstrVal : Option String) (name : d.friendlyName = .string bstrVal) :
      d.line = [.device bstrVal] := by simp only [Device.line, storage, name]
  cases name : d.friendlyName with
  | failed | other =>
      rw [ends_bind, ends_pure]
      refine rest l c found owns fun l owns => ?_
      have same := given l found (by simp [Device.isSource, name]) owns
      simpa only [Device.line, storage, name, quiet] using same
  | string bstrVal =>
      dsimp only
      rw [ends_bind]
      have owns : Owns (m.toList ++ (found.toList ++ (v.toList ++ (bag.toList ++ refs)))) l := by
        refine owns.reorder fun r => ?_
        simp only [List.count_append]
        omega
      refine ends_tryDevice owns mLive ?_ fun l after some owns => ?_
      · rintro null rfl
        have named := named null
        simp [Device.nameless, storage, name] at named
      · refine rest l _ after ?_ fun l owns => ?_
        · refine owns.reorder fun r => ?_
          simp only [List.count_append]
          omega
        · rw [← line bstrVal name]
          refine given l after ?_ owns
          rw [some, Device.isSource, storage, name]
          cases bstrVal <;> rfl

theorem ends_visit {d : Device} {found : Option Ref} (owns : Owns (found.toList ++ refs) l)
    (named : found = none → d.nameless = false)
    (given : ∀ l after, after.isSome = (found.isSome || d.isSource) →
      Owns (after.toList ++ refs) l → next after ⟨l, c.saying d.line⟩) :
    (visit d found).Ends ⟨l, c⟩ next returned := by
  rw [visit, ends_bind]
  refine ends_obtain owns fun m l mLive owns => ?_
  rw [ends_bind, ends_use owns mLive held_first, ends_bind]
  refine ends_obtain owns fun bag l bound owns => ?_
  -- the moniker is given up at the end of the round
  have rest (l : Ledger) (after : Option Ref) (some : after.isSome = (found.isSome || d.isSource))
      (owns : Owns (m.toList ++ (after.toList ++ refs)) l) :
      (do release m; pure after : ObsMethod (Option Ref)).Ends ⟨l, c.saying d.line⟩ next
        returned := by
    rw [ends_bind]
    exact ends_release owns mLive fun l owns => given l after some owns
  rw [ends_bind, ends_ite]
  constructor
  · intro bagLive
    exact ends_inspect owns bagLive mLive (bound.symm.trans bagLive) named
      fun l after some owns => rest l after some owns
  · intro null
    rw [Bool.not_eq_true] at null
    rw [null] at bound
    rw [Option.isSome_eq_false_iff, Option.isNone_iff_eq_none] at null
    rw [null] at owns
    have silent : c.saying d.line = c := by simp [Capture.saying, Device.line, ← bound]
    have missed := rest l found (by simp [Device.isSource, ← bound]) owns
    rw [silent] at missed
    exact missed

/-- The search would read the name of a device that has a null string for it. -/
def trips : List Device → Bool
  | [] => false
  | d :: rest => d.nameless || !d.isSource && trips rest

theorem saying_append (c : Capture) (first second : List ObsLine) :
    (c.saying first).saying second = c.saying (first ++ second) := by
  simp only [Capture.saying, List.append_assoc]

theorem ends_enumerate {en : Option Ref} (devices : List Device) {found : Option Ref}
    (owns : Owns (found.toList ++ (en.toList ++ refs)) l) (enLive : en.isSome = true)
    (named : found = none → trips devices = false)
    (given : ∀ l after, after.isSome = (found.isSome || devices.any Device.isSource) →
      Owns (after.toList ++ (en.toList ++ refs)) l →
      next after ⟨l, c.saying (devices.flatMap Device.line)⟩) :
    (enumerate en devices found).Ends ⟨l, c⟩ next returned := by
  have enHeld (found : Option Ref) : ∀ r ∈ en, r ∈ found.toList ++ (en.toList ++ refs) := by
    intro r here
    exact List.mem_append_right _ (held_first r here)
  induction devices generalizing l c found with
  | nil =>
      rw [enumerate, ends_bind, ends_use owns enLive (enHeld found)]
      have quiet : c.saying [] = c := by simp [Capture.saying]
      have same := given l found (by simp) owns
      rw [List.flatMap_nil, quiet] at same
      exact same
  | cons d rest ih =>
      rw [enumerate, ends_bind, ends_use owns enLive (enHeld found), ends_bind]
      have first : found = none → d.nameless = false := by
        intro null
        have named := named null
        rw [trips, Bool.or_eq_false_iff] at named
        exact named.1
      refine ends_visit owns first fun l after some owns => ?_
      refine ih owns ?_ fun l last found owns => ?_
      · rintro rfl
        have missed : found = none ∧ d.isSource = false := by
          simpa [Bool.or_eq_false_iff] using some.symm
        have named := named missed.1
        rw [trips, missed.2, Bool.or_eq_false_iff] at named
        exact named.2
      · rw [saying_append, ← List.flatMap_cons]
        refine given l last ?_ owns
        rw [found, some, List.any_cons, Bool.or_assoc]

/-- The category is searched, and what there is to find and to log in it. -/
def Answers.searches (a : Answers) : Bool := a.devEnum && a.enumerator

def Answers.source (a : Answers) : Bool := a.searches && a.devices.any Device.isSource

def Answers.trips (a : Answers) : Bool := a.searches && Graph.trips a.devices

def Answers.lines (a : Answers) : List ObsLine :=
  if a.searches then a.devices.flatMap Device.line else []

theorem ends_findObsSource {a : Answers} (owns : Owns refs l) (named : a.trips = false)
    (given : ∀ l found, found.isSome = a.source → Owns (found.toList ++ refs) l →
      next found ⟨l, c.saying a.lines⟩) :
    (findObsSource a).Ends ⟨l, c⟩ next returned := by
  have quiet : c.saying [] = c := by simp [Capture.saying]
  -- nothing is found where nothing is searched
  have nothing (l : Ledger) (off : a.searches = false) (owns : Owns refs l) :
      next none ⟨l, c⟩ := by
    have same := given l none (by simp [Answers.source, off]) owns
    rw [Answers.lines, off, if_neg Bool.false_ne_true, quiet] at same
    exact same
  rw [findObsSource, ends_bind]
  refine ends_obtain owns fun devEnum l created owns => ?_
  cases devEnum with
  | none =>
      rw [ends_ite]
      refine ⟨fun _ => nothing l ?_ owns, fun live => (live rfl).elim⟩
      rw [Answers.searches, ← created]
      rfl
  | some made =>
      rw [ends_ite]
      refine ⟨fun null => (Bool.false_ne_true null).elim, fun _ => ?_⟩
      rw [ends_bind, ends_use owns rfl held_first, ends_bind]
      refine ends_obtain owns fun en l listed owns => ?_
      have searches : a.searches = en.isSome := by
        rw [Answers.searches, ← created, listed]
        rfl
      rw [ends_bind, search, ends_ite]
      constructor
      · intro enLive
        rw [ends_bind]
        have on : a.searches = true := searches.trans enLive
        have unnamed : Graph.trips a.devices = false := by
          simpa only [Answers.trips, on, Bool.true_and] using named
        refine ends_enumerate a.devices owns enLive (fun _ => unnamed)
          fun l found some owns => ?_
        have owns :
            Owns (en.toList ++ ((Option.some made).toList ++ (found.toList ++ refs))) l := by
          refine owns.reorder fun r => ?_
          simp only [List.count_append]
          omega
        rw [ends_bind]
        refine ends_release owns enLive fun l owns => ?_
        rw [ends_pure, ends_bind]
        refine ends_release owns rfl fun l owns => ?_
        have done := given l found (by simpa [Answers.source, on] using some) owns
        rw [Answers.lines, if_pos on] at done
        exact done
      · intro null
        rw [Bool.not_eq_true] at null
        have off : a.searches = false := searches.trans null
        rw [Option.isSome_eq_false_iff, Option.isNone_iff_eq_none] at null
        subst null
        rw [ends_pure, ends_bind]
        exact ends_release owns rfl fun l owns => nothing l off owns

end Search

end Obs2Mf.Broker.Graph
