import Mathlib.Algebra.Group.Int.Defs
import ClusterAgent.Api.Objects

/-!
# Cluster agent — Storage

A Storage is a set of Volumes and an ssh server that mounts them.
-/

namespace ClusterAgent

open Conditions

inductive StorageCondition where
  | available
  | failed
  deriving DecidableEq, Repr

inductive StoragePhase where
  | unset
  | ready
  | pending
  deriving DecidableEq, Repr

structure StorageSpec where
  provisionedFor : String := ""
  userPublicSSHKey : String := ""
  volumeSpecs : List (String × VolumeSpec) := []
  deriving DecidableEq, Repr

structure VolumeInfo where
  volumeName : String
  /-- The path within the storage pod the volume is mounted at. -/
  subpath : String
  available : Bool
  deriving DecidableEq, Repr

structure StorageStatus where
  observedStackdomeServerObjectGeneration : Int := 0
  conditions : List (Condition StorageCondition) := []
  phase : StoragePhase := .unset
  volumeStatus : List VolumeInfo := []
  statusHash : String := ""
  serviceName : String := ""
  deriving DecidableEq, Repr

abbrev Storage := Object StorageSpec StorageStatus

def storageNameLabel : String := "storage.stackdome.io/storagename"

def mountPathForVolume (storage : Storage) (volumeName : String) : String :=
  "/" ++ storage.name ++ "/" ++ volumeName

def containsVolume (storage : Storage) (volumeName : String) : Bool :=
  storage.spec.volumeSpecs.any fun v => decide (v.1 = volumeName)

/-- The label in which the server that manages an object counts its versions. -/
def stackdomeObjectGeneration : String := "managedobject.stackdome.io/generation"

/-- The digits of a number, if the text is nothing else. -/
def digitsToNat : List Char → Option Nat
  | [] => none
  | cs => cs.foldl (fun n c => n.bind fun n =>
      if c.isDigit then some (10 * n + (c.toNat - '0'.toNat)) else none) (some 0)

/-- `strconv.ParseInt(s, 10, 64)` without its error: `0` for a text that is no number, and
the nearest value for one out of range. -/
def parseInt64 (s : String) : Int :=
  let clamp (i : Int) : Int := max (-2 ^ 63) (min (2 ^ 63 - 1) i)
  match s.toList with
  | '-' :: cs => clamp (-((digitsToNat cs).getD 0 : Nat))
  | '+' :: cs => clamp ((digitsToNat cs).getD 0 : Nat)
  | cs => clamp ((digitsToNat cs).getD 0 : Nat)

end ClusterAgent
