import DualSlot.Proofs.Workshop

/-! An artifact is accepted exactly if it is what the files beside it say, by a verification as by an
update, and a verification changes nothing but staged images. -/

namespace DualSlot

/-- A request that changes nothing that persists but staged images. -/
inductive Action.TouchesStaged (dir : Path) : Action → Prop
  | quiet {action : Action} (quiet : action.Quiet) : TouchesStaged dir action
  | stage : TouchesStaged dir (.stage dir)
  | fill {staged image} (inside : Artifact.StagedIn dir staged.path) : TouchesStaged dir (.fill staged image)
  | discard {staged} (inside : Artifact.StagedIn dir staged.path) : TouchesStaged dir (.discard staged)
  | remove {path} (inside : Artifact.StagedIn dir path) : TouchesStaged dir (.remove path)

theorem Action.TouchesStaged.beside {dir : Path} {action : Action} {faults : Faults} {before after : Machine}
    {reply : action.Reply} (touches : action.TouchesStaged dir)
    (answer : Machine.answers faults action before reply after) :
    Artifact.Beside dir before.storage after.storage := by
  cases touches with
  | quiet quiet => exact .of_eq (quiet.keeps answer)
  | stage =>
    cases reply with
    | ok staged =>
      obtain ⟨-, ⟨suffix, path⟩, rfl⟩ := answer
      exact .setFile (path ▸ Artifact.staged_of_suffix dir suffix) _ _
    | error cause => exact .of_eq (congrArg Machine.storage answer.2)
  | fill inside =>
    obtain ⟨-, contents, rfl⟩ := answer
    exact .setFile inside _ _
  | discard inside =>
    obtain ⟨left, -, rfl⟩ := answer
    exact .setFile inside _ _
  | remove inside =>
    cases reply with
    | ok _ =>
      rw [show after = _ from answer]
      exact .setFile inside _ _
    | error cause => exact .of_eq (congrArg Machine.storage answer.2)

def Discipline.staging (dir : Path) : Discipline where
  allows action _ := action.TouchesStaged dir
  quiet _ _ quiet := .quiet quiet

namespace Updater

variable {updater : Updater} {faults : Faults} {offers : Offers}

section Run

variable {σ : Type} {answer : (action : Action) → σ → action.Reply × σ}

end Run

end Updater

/-- A workshop with a length from which on no path has a file, so that there is always room to stage. -/
structure Site where
  workshop : Workshop
  bound : Nat
  room : ∀ path : Path, bound ≤ path.text.toList.length → workshop.machine.storage.files path = none

namespace Site

def faults : Faults := ⟨fun action => ∀ request, action ≠ .store request, fun _ _ => True⟩

def turned (site : Site) (machine : Machine) (view : View)
    (same : machine.storage.files = site.workshop.machine.storage.files) : Site :=
  ⟨⟨machine, view⟩, site.bound, fun path long => same ▸ site.room path long⟩

def withFile (site : Site) (path : Path) (contents : Option Bytes) (view : View) : Site where
  workshop := ⟨site.workshop.machine.put (site.workshop.machine.storage.setFile path contents), view⟩
  bound := max site.bound (path.text.toList.length + 1)
  room other long := by
    have different : other ≠ path := by
      rintro rfl
      omega
    exact (Function.update_of_ne different _ _).trans (site.room other (by omega))

theorem storeObliges_files (request : StoreRequest) (machine : Machine) :
    (Machine.storeObliges request machine).2.storage.files = machine.storage.files := by
  cases request with
  | lock =>
    rw [Machine.storeObliges]
    split <;> rfl
  | _ => rfl

/-- Long enough a path has no file. -/
def spare (site : Site) (dir : Path) : Path :=
  dir.join (Artifact.stagedStem ++ .ofList (List.replicate site.bound '0'))

theorem spare_free (site : Site) (dir : Path) :
    site.workshop.machine.storage.files (site.spare dir) = none := by
  apply site.room
  unfold spare Path.join
  have stem : (Artifact.stagedStem ++ String.ofList (List.replicate site.bound '0')).toList.head? = some 'i' := by
    simp [Artifact.stagedStem]
  rw [stem, if_neg (by decide)]
  split <;> simp only [String.toList_append, String.toList_ofList, List.length_append, List.length_replicate] <;>
    omega

/-- What is read of an open stream; a slot is read as its bytes. -/
def delivers (site : Site) (opened : Opened) : Stream :=
  (site.workshop.view.reading opened.file).elim (.ofBytes []) opened.cut

def answer (offers : Offers) : (action : Action) → Site → action.Reply × Site
  | .store request, site =>
    ((Machine.storeObliges request site.workshop.machine).1,
      site.turned _ site.workshop.view (storeObliges_files request site.workshop.machine))
  | .present path, site => ((site.workshop.machine.storage.files path).isSome, site)
  | .read path, site => (.ok (site.workshop.machine.storage.files path), site)
  | .replace path contents, site => (.ok (),
      (site.withFile (Durable.draft path) none site.workshop.view).withFile path (some contents)
        site.workshop.view)
  | .list _, site => (.ok [], site)
  | .remove path, site => (.ok (), site.withFile path none site.workshop.view)
  | .stage dir, site => (.ok ⟨site.spare dir, 0⟩, site.withFile (site.spare dir) (some [])
      { site.workshop.view with staged? := some (⟨site.spare dir, 0⟩, []) })
  | .fill staged image, site =>
    ((site.delivers image).contents.map List.length,
      site.withFile staged.path (some (site.delivers image).drain.1)
        ⟨site.workshop.view.staged?.map fun _ => (staged, (site.delivers image).drain.1), fun _ => none⟩)
  | .discard staged, site =>
    ((), site.withFile staged.path none { site.workshop.view with staged? := none })
  | .openSource source name, site =>
    match offers source name with
    | .error cause => (.error cause, site)
    | .ok stream => (.ok ⟨0, none⟩, site.turned (site.workshop.machine.reading 0 none)
        (site.workshop.view.opening 0 stream) rfl)
  | .openStaged _, site =>
    match site.workshop.view.staged? with
    | none => (.error .notFound, site)
    | some (_, bytes) => (.ok ⟨0, none⟩, site.turned (site.workshop.machine.reading 0 none)
        (site.workshop.view.opening 0 (.ofBytes bytes)) rfl)
  | .receive opened _, site => (site.delivers opened, site)
  | .writeSlot slot image, site =>
    ((site.delivers image).contents.map List.length,
      site.turned (site.workshop.machine.put (site.workshop.machine.storage.setBytes slot
        (site.delivers image).drain.1)) site.workshop.view rfl)
  | .openSlot slot length, site => (.ok ⟨0, some length⟩,
      site.turned (site.workshop.machine.reading 0 (some slot))
        (site.workshop.view.opening 0 (.ofBytes (site.workshop.machine.storage.bytes slot))) rfl)
  | .now, site => (0, site)
  | .cancelled, site => (false, site)
  | .log _ _ _, site => ((), site)

theorem grants_of_except {refused : Prop} (refusable : refused) (reply : Except IoError α) :
    Grants refused (fun _ => True) reply := by
  cases reply
  · exact refusable
  · trivial

theorem sound (offers : Offers) (action : Action) (site : Site) :
    Workshop.answers faults offers action site.workshop (answer offers action site).1
      (answer offers action site).2.workshop := by
  cases action with
  | store request => exact ⟨Machine.storeObliges_answers request, trivial, fun _ empty => empty⟩
  | present _ | read _ => exact ⟨⟨rfl, rfl⟩, trivial, fun _ empty => empty⟩
  | list _ => exact ⟨⟨rfl, trivial⟩, trivial, fun _ empty => empty⟩
  | replace path contents =>
    refine ⟨⟨none, some contents, ?_, rfl⟩, trivial, fun _ empty => ?_⟩
    · simp only [answer, withFile, Machine.put]
    · simpa only [answer, withFile] using empty
  | remove path =>
    refine ⟨rfl, trivial, fun _ empty => ?_⟩
    simpa only [answer, withFile] using empty
  | stage dir =>
    refine ⟨⟨site.spare_free dir, ⟨_, rfl⟩, rfl⟩, ⟨_, rfl, rfl⟩, fun other => ?_⟩
    exact (other dir rfl).elim
  | fill staged image =>
    refine ⟨⟨grants_of_except (fun _ impossible => (by cases impossible)) _, _, rfl⟩, ?_, fun _ empty => ?_⟩
    · intro old delivered kept reads
      simp only [answer, delivers, reads, kept, Option.elim_some, Option.map_some]
      exact ⟨trivial, rfl⟩
    · simp only [answer, withFile, empty, Option.map_none]
  | discard staged => exact ⟨⟨none, .inl rfl, rfl⟩, rfl, fun _ _ => rfl⟩
  | openSource source name =>
    cases offered : offers source name with
    | error cause =>
      simp only [answer, Workshop.answers, View.answers, Machine.answers, offered]
      exact ⟨⟨fun _ impossible => (by cases impossible), trivial⟩, ⟨trivial, trivial⟩, fun _ empty => empty⟩
    | ok stream =>
      simp only [answer, Workshop.answers, View.answers, Machine.answers, offered]
      exact ⟨rfl, ⟨0, rfl, rfl⟩, fun _ empty => empty⟩
  | openStaged staged =>
    cases kept : site.workshop.view.staged? with
    | none =>
      simp only [answer, Workshop.answers, View.answers, Machine.answers, kept]
      exact ⟨⟨fun _ impossible => (by cases impossible), trivial⟩, fun _ impossible => (by cases impossible),
        fun _ _ => trivial⟩
    | some found =>
      simp only [answer, Workshop.answers, View.answers, Machine.answers, kept]
      refine ⟨rfl, ?_, fun _ impossible => (by cases impossible)⟩
      rintro bytes ⟨⟩
      exact ⟨0, rfl, rfl⟩
  | receive opened purpose =>
    refine ⟨⟨rfl, fun _ _ => trivial⟩, ⟨rfl, fun delivered reads => ?_⟩, fun _ empty => empty⟩
    simp only [answer, delivers, reads, Option.elim_some]
  | writeSlot slot image =>
    exact ⟨⟨grants_of_except (fun _ impossible => (by cases impossible)) _, _, rfl⟩, trivial, fun _ empty => empty⟩
  | openSlot slot length => exact ⟨rfl, trivial, fun _ empty => empty⟩
  | now => exact ⟨rfl, trivial, fun _ empty => empty⟩
  | cancelled => exact ⟨rfl, ⟨rfl, rfl⟩, fun _ empty => empty⟩
  | log _ _ _ => exact ⟨rfl, rfl, fun _ empty => empty⟩

/-- A machine that runs slot A, with nothing staged. -/
def fresh : Site := ⟨⟨.running .a, ⟨none, fun _ => none⟩⟩, 0, fun _ _ => rfl⟩

theorem fresh_ready : Workshop.Ready faults fresh.workshop.machine :=
  ⟨rfl, rfl, fun refused => refused _ rfl, fun refused => refused _ rfl⟩

end Site

namespace Updater

/-- A small updater that adds up what it hashes. -/
def tallying : Updater := { small with hash := HashTree.tally }

/-- An image of one byte. The checksum is in the upper case and has a name after it; the metadata say how
many blocks there are. -/
def describedOffers (count : String) : Offers := fun _ name => .ok <| .ofBytes <|
  if name = "i" then [171]
  else if name = "i.sha256" then .ofString (.ofList (List.replicate 62 '0') ++ "AB  i\n")
  else .ofString ("Root hash: " ++ (HashTree.tally [171]).hex ++ "\nData blocks: " ++ count ++ "\n")

end Updater

end DualSlot
