import DualSlot.BootEntry
import DualSlot.HashTree.Params
import DualSlot.Path

/-!
The settings of a machine.
-/

namespace DualSlot

/-- Where the loader's files are, and what entries look like. -/
structure BootSettings where
  entriesDir : Path
  loaderFile : Path
  templates : BootTemplates
  deriving DecidableEq, Repr

structure Settings where
  stateDir : Path
  maxBootCount : UInt32
  historyLimit : Nat
  slotA : Path
  slotB : Path
  boot : BootSettings
  dataBlockSize : Nat
  hashBlockSize : Nat
  deriving DecidableEq, Repr

namespace Settings

def standard : Settings where
  stateDir := ⟨"/run/twinboot/mounts/state"⟩
  maxBootCount := 3
  historyLimit := 10
  slotA := ⟨"/dev/disk/by-partlabel/slot-a"⟩
  slotB := ⟨"/dev/disk/by-partlabel/slot-b"⟩
  boot := {
    entriesDir := ⟨"/boot/loader/entries"⟩
    loaderFile := ⟨"/boot/loader/loader.conf"⟩
    templates := .standard }
  dataBlockSize := HashTree.defaultBlockSize
  hashBlockSize := HashTree.defaultBlockSize

/-- The file that holds the settings unless the operator names another. -/
def defaultFile : Path := ⟨"/etc/twinboot/ctrl.toml"⟩

def partition (settings : Settings) : Slot → Path
  | .a => settings.slotA
  | .b => settings.slotB

/-- The parameters of trees whose metadata names none. -/
def treeParams (settings : Settings) : HashTree.Params :=
  ⟨settings.dataBlockSize, settings.hashBlockSize, []⟩

end Settings

end DualSlot
