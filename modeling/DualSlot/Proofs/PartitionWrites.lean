import DualSlot.Host
import DualSlot.Proofs.StreamDelivery
import DualSlot.Simulation.World

/-! What the host's way of writing an image makes of a partition: the image is written over the
beginning, and what was behind it stays. -/

namespace DualSlot

namespace Simulation

theorem lookup_assign_self [DecidableEq κ] [BEq κ] [LawfulBEq κ] (key : κ) (value : α) (pairs : List (κ × α)) :
    (assign key value pairs).lookup key = some value := by
  induction pairs with
  | nil => simp [assign]
  | cons pair rest ih =>
    obtain ⟨other, old⟩ := pair
    by_cases same : other = key
    · simp [assign, same]
    · have different : (key == other) = false := beq_false_of_ne (Ne.symm same)
      simp [assign, same, List.lookup_cons, different, ih]

theorem data_setData (tree : FileTree) (id : FileId) (bytes : Bytes) :
    (tree.setData id bytes).data id = bytes := by
  rw [FileTree.data, FileTree.setData, lookup_assign_self]
  rfl

theorem overwrite_beginning (old new : Bytes) : overwrite old 0 new = new ++ old.drop new.length := by
  unfold overwrite
  cases new with
  | nil => simp
  | cons first more => simp [Bytes.padded]

namespace World

variable {world after : World} {α β ε : Type}

theorem run_bind_ok {task : ExceptT ε Hosted α} {next : α → ExceptT ε Hosted β} {value : α}
    (done : world.run task.run = (.ok value, after)) :
    world.run (task >>= next).run = after.run (next value).run := by
  have parts : world.run (task >>= next).run = _ := Program.run_bind (I := calls) answer task.run _ world
  rw [parts, show Program.run answer task.run world = _ from done]
  rfl

theorem run_bind_error {task : ExceptT ε Hosted α} {next : α → ExceptT ε Hosted β} {cause : ε}
    (failed : world.run task.run = (.error cause, after)) :
    world.run (task >>= next).run = (.error cause, after) := by
  have parts : world.run (task >>= next).run = _ := Program.run_bind (I := calls) answer task.run _ world
  rw [parts, show Program.run answer task.run world = _ from failed]
  rfl

theorem run_lift_bind (program : Hosted α) (next : α → ExceptT ε Hosted β) :
    world.run (liftM program >>= next).run =
      (world.run program).2.run (next (world.run program).1).run :=
  run_bind_ok (Program.run_bind (I := calls) answer program _ world)

theorem run_closing (file : Handle) (task : FileTask α) :
    world.run (FileTask.closing file task).run =
      ((world.run task.run).1, (world.run task.run).2.release file) :=
  Program.run_bind (I := calls) answer task.run _ world

def delivers (world : World) (opened : Opened) : Stream := (world.run (Host.contents opened)).1

theorem run_contents (world : World) (opened : Opened) :
    world.run (Host.contents opened) = (world.delivers opened, world) := rfl

theorem delivers_whole {opened : Opened} (unlimited : opened.limit = none) :
    world.delivers opened = world.receive opened.file := by
  simp only [delivers, Host.contents, unlimited]
  rfl

theorem delivers_limited {opened : Opened} {limit : Nat} (limited : opened.limit = some limit) :
    world.delivers opened = (world.receive opened.file).take limit := by
  simp only [delivers, Host.contents, limited]
  rfl

theorem delivers_of_receive {opened : Opened} (same : after.receive opened.file = world.receive opened.file) :
    after.delivers opened = world.delivers opened := by
  cases limit : opened.limit with
  | none => rw [delivers_whole limit, delivers_whole limit, same]
  | some _ => rw [delivers_limited limit, delivers_limited limit, same]

theorem delivers_congr {opened : Opened} (files : after.openFiles = world.openFiles)
    (tree : after.tree = world.tree) : after.delivers opened = world.delivers opened := by
  apply delivers_of_receive
  simp only [receive, files, tree]

theorem delivers_hold {opened : Opened} (older : opened.file < world.nextHandle) (file : OpenFile) :
    (world.hold file).2.delivers opened = world.delivers opened := by
  have different : (opened.file == world.nextHandle) = false := beq_false_of_ne (Nat.ne_of_lt older)
  apply delivers_of_receive
  simp only [receive, hold, List.lookup_cons, different]

theorem run_log (world : World) (topic : LogTopic) (level : LogLevel) (text : String) :
    ∃ after, world.run (Call.perform (.log topic level text)) = ((), after) ∧
      after.tree = world.tree ∧ after.workingDir = world.workingDir ∧
      after.openFiles = world.openFiles ∧ after.nextHandle = world.nextHandle := by
  by_cases told : world.filter.admits topic level = true
  · refine ⟨world.print .notices (level.line text ++ "\n"), ?_, rfl, rfl, rfl, rfl⟩
    change ((), if world.filter.admits topic level then _ else world) = _
    rw [if_pos told]
  · refine ⟨world, ?_, rfl, rfl, rfl, rfl⟩
    change ((), if world.filter.admits topic level then _ else world) = _
    rw [if_neg told]

/-- All that arrives of a stream is written over the beginning of a file, also if the stream fails. -/
theorem run_copy {file : Handle} {id : FileId} (held : world.openFiles.lookup file = some (.file id (some 0)))
    (stream : Stream) :
    ∃ after, after.tree.data id = overwrite (world.tree.data id) 0 stream.drain.1 ∧
      world.run (FileTask.copy stream file).run = (match stream.drain.2 with
        | none => .ok stream.drain.1.length
        | some cause => .error cause, after) := by
  cases drained : stream.drain with
  | mk bytes failure =>
    obtain ⟨later, wrote, data⟩ : ∃ later, world.run (FileTask.write file bytes).run = (.ok (), later) ∧
        later.tree.data id = overwrite (world.tree.data id) 0 bytes := by
      refine ⟨{ world with
        tree := world.tree.setData id (overwrite (world.tree.data id) 0 bytes)
        openFiles := assign file (.file id (some (0 + bytes.length))) world.openFiles }, ?_,
        data_setData ..⟩
      change answer (.write file bytes) world = _
      simp [answer, write, held, settle, Except.map]
    refine ⟨later, data, ?_⟩
    unfold FileTask.copy
    simp only [drained]
    rw [run_bind_ok wrote]
    cases failure <;> rfl

theorem run_copy_sync {file : Handle} {id : FileId}
    (held : world.openFiles.lookup file = some (.file id (some 0))) (stream : Stream) :
    ∃ after, after.tree.data id = overwrite (world.tree.data id) 0 stream.drain.1 ∧
      world.run (do
        let count ← FileTask.copy stream file
        FileTask.sync file
        return count : FileTask Nat).run = (match stream.drain.2 with
        | none => .ok stream.drain.1.length
        | some cause => .error cause, after) := by
  obtain ⟨after, data, copies⟩ := run_copy held stream
  refine ⟨after, data, ?_⟩
  cases failure : stream.drain.2 with
  | none =>
    rw [failure] at copies
    rw [run_bind_ok copies]
    rfl
  | some cause =>
    rw [failure] at copies
    rw [run_bind_error copies]

end World

theorem World.run_openFile {world : World} {path : Path} {place : Location} {id : FileId}
    (resolved : world.tree.resolve world.workingDir path = .ok place)
    (file : world.tree.node? place = some (.file id)) :
    world.run (FileTask.openFile path .overwrite).run =
      (.ok world.nextHandle, (world.hold (.file id (some 0))).2) := by
  change answer (.openFile path .overwrite) world = _
  simp [answer, settle, World.openFile, openToChange, resolved, file, hold, bind, Except.bind, pure,
    Except.pure]

end Simulation

namespace Host

open Simulation

/-- An image that the host wrote to a partition, on some system, and what this made of the partition. -/
structure PartitionWrite (image : Stream) (before after : Bytes) where
  world : World
  path : Path
  opened : Opened
  place : Location
  id : FileId
  count : Nat
  later : World
  found : world.tree.resolve world.workingDir path = .ok place
  file : world.tree.node? place = some (.file id)
  /-- The image was opened before the partition is. -/
  older : opened.file < world.nextHandle
  delivers : world.delivers opened = image
  was : world.tree.data id = before
  written : world.run (writePartition path opened).run = (.ok count, later)
  becomes : later.tree.data id = after

theorem run_writePartition {world : World} {path : Path} {opened : Opened} {place : Location} {id : FileId}
    (found : world.tree.resolve world.workingDir path = .ok place)
    (file : world.tree.node? place = some (.file id)) (older : opened.file < world.nextHandle) :
    ∃ later, later.tree.data id =
        overwrite (world.tree.data id) 0 (world.delivers opened).drain.1 ∧
      world.run (writePartition path opened).run = (match (world.delivers opened).drain.2 with
        | none => .ok (world.delivers opened).drain.1.length
        | some cause => .error cause, later) := by
  obtain ⟨logged, log, tree, dir, files, next⟩ :=
    world.run_log .device .debug s!"writing image to {path.quoted}"
  have opens : logged.run (FileTask.openFile path .overwrite).run =
      (.ok logged.nextHandle, (logged.hold (.file id (some 0))).2) :=
    World.run_openFile (by rw [tree, dir, found]) (by rw [tree, file])
  have held : (logged.hold (.file id (some 0))).2.openFiles.lookup logged.nextHandle =
      some (.file id (some 0)) := by simp [World.hold]
  have same : (logged.hold (.file id (some 0))).2.delivers opened = world.delivers opened := by
    rw [World.delivers_hold (next ▸ older)]
    exact World.delivers_congr files tree
  obtain ⟨later, data, copies⟩ := World.run_copy_sync held (world.delivers opened)
  unfold writePartition FileTask.withFile
  rw [World.run_closing, World.run_lift_bind, log, World.run_bind_ok opens, World.run_closing,
    World.run_lift_bind, World.run_contents, same, copies]
  refine ⟨_, ?_, rfl⟩
  rw [← tree]
  exact data

/-- Whatever the system: an image that was written has arrived as a whole, and is the beginning of the
partition, which ends as before. -/
theorem PartitionWrite.overwrites {image : Stream} {before after : Bytes}
    (write : PartitionWrite image before after) :
    image.drain.2 = none ∧ after = image.drain.1 ++ before.drop image.drain.1.length := by
  obtain ⟨later, data, result⟩ := run_writePartition write.found write.file write.older
  rw [write.delivers] at data result
  rw [write.written] at result
  obtain ⟨succeeded, rfl⟩ := Prod.mk.inj result
  cases failure : image.drain.2 with
  | some cause =>
    rw [failure] at succeeded
    cases succeeded
  | none =>
    refine ⟨rfl, ?_⟩
    rw [← write.becomes, data, write.was, overwrite_beginning]

/-- A system with one partition, on which an image is about to be written to it. -/
def writingWorld (image : Stream) (before : Bytes) : World :=
  { World.fresh 0 with
    tree := ⟨[(["p"], .file 0)], [(0, before)], 1⟩
    openFiles := [(0, .stream image)]
    nextHandle := 1 }

theorem exists_partitionWrite {image : Stream} {bytes : Bytes} (drained : image.drain = (bytes, none))
    (before : Bytes) : Nonempty (PartitionWrite image before (bytes ++ before.drop bytes.length)) := by
  have found : (writingWorld image before).tree.resolve (writingWorld image before).workingDir ⟨"/p"⟩ =
      .ok ["p"] := rfl
  have file : (writingWorld image before).tree.node? ["p"] = some (.file 0) := rfl
  have older : (⟨0, none⟩ : Opened).file < (writingWorld image before).nextHandle := Nat.zero_lt_one
  have delivers : (writingWorld image before).delivers ⟨0, none⟩ = image := rfl
  obtain ⟨later, data, result⟩ := run_writePartition found file older
  rw [delivers, drained] at data result
  exact ⟨{
    world := writingWorld image before, path := ⟨"/p"⟩, opened := ⟨0, none⟩, place := ["p"], id := 0
    count := bytes.length, later, found, file, older, delivers, was := rfl, written := result
    becomes := data.trans (overwrite_beginning _ _) }⟩

end Host

end DualSlot
