import CameraServer.Disk.Basic
import CameraServer.Recording.FragmentName

/-!
The quota pass: it deletes the oldest fragments of a directory until the rest is smaller than the
quota. The fragment about to be written is never deleted, and one pass deletes at most a hundred.
-/

set_option autoImplicit false

namespace CameraServer.Recording

structure Fragment where
  name : String
  size : Nat
  mtime : Int
deriving DecidableEq, Repr

abbrev Listing := List (String × Disk.Node)

def isFragmentName (name : String) : Bool :=
  match FilePath.extensionOf? name.toList with
  | some ext => Text.sameLetters (String.ofList ext) extension
  | none => false

def fragment? (entry : String × Disk.Node) : Option Fragment :=
  match entry.2 with
  | .file content mtime =>
      if isFragmentName entry.1 then some ⟨entry.1, content.size, mtime⟩ else none
  | _ => none

def fragments (listing : Listing) : List Fragment :=
  listing.filterMap fragment?

def sizeSum : List Fragment → Nat
  | [] => 0
  | f :: rest => f.size + sizeSum rest

def totalSize (found : List Fragment) : Nat :=
  sizeSum found % Nat.pow 2 64

def Fragment.precedes (a b : Fragment) : Bool :=
  a.mtime < b.mtime || (a.mtime == b.mtime && a.name < b.name)

def oldest? : List Fragment → Option Fragment
  | [] => none
  | first :: rest => some (rest.foldl (fun best f => if f.precedes best then f else best) first)

inductive QuotaOutcome where
  | unbounded
  | withinQuota
  | activeIsOldest
  | noCandidate
  | iterationLimit
  | ioFailure
deriving DecidableEq, Repr

structure QuotaReport where
  outcome : QuotaOutcome
  removed : List String
  totalBytes : Nat
deriving DecidableEq, Repr

/-- Which listing of the directory and which removal fail, counted from one within a pass. -/
structure Interruption where
  listing : Option Nat := none
  removal : Option Nat := none
deriving DecidableEq, Repr

def deletionLimit : Nat := 100

structure QuotaPass where
  listing : Listing
  total : Nat
  removed : List String := []
  listings : Nat := 1

def QuotaPass.report (p : QuotaPass) (outcome : QuotaOutcome) : QuotaReport × Listing :=
  (⟨outcome, p.removed, p.total⟩, p.listing)

/-- Goes on with a pass that may delete at most `limit` more fragments. Each round lists the
directory to find the oldest fragment and, after the removal, to size the rest. -/
def QuotaPass.run (stop : Interruption) (maxBytes : Nat) (isActive : String → Bool) :
    Nat → QuotaPass → QuotaReport × Listing
  | limit, p =>
      if p.total < maxBytes then p.report .withinQuota
      else
        match limit with
        | 0 => p.report .iterationLimit
        | limit + 1 =>
            if stop.listing = some (p.listings + 1) then p.report .ioFailure
            else
              match oldest? (fragments p.listing) with
              | none => p.report .noCandidate
              | some oldest =>
                  if isActive oldest.name then p.report .activeIsOldest
                  else if stop.removal = some (p.removed.length + 1) then p.report .ioFailure
                  else
                    let rest := p.listing.filter (·.1 ≠ oldest.name)
                    let removed := p.removed ++ [oldest.name]
                    if stop.listing = some (p.listings + 2) then
                      QuotaPass.report ⟨rest, p.total, removed, p.listings + 2⟩ .ioFailure
                    else
                      QuotaPass.run stop maxBytes isActive limit
                        ⟨rest, totalSize (fragments rest), removed, p.listings + 2⟩

def enforceOn (stop : Interruption) (maxBytes : Option Nat) (isActive : String → Bool)
    (listing : Listing) : QuotaReport × Listing :=
  match maxBytes with
  | none => (⟨.unbounded, [], 0⟩, listing)
  | some max =>
      if stop.listing = some 1 then (⟨.ioFailure, [], 0⟩, listing)
      else QuotaPass.run stop max isActive deletionLimit ⟨listing, totalSize (fragments listing), [], 1⟩

/-! ### On the disk -/

def totalSizeIn (d : Disk) (dir : FilePath) : Except Disk.OsError Nat :=
  (d.list dir).map fun listing => totalSize (fragments listing)

def oldestIn (d : Disk) (dir : FilePath) : Except Disk.OsError (Option FilePath) :=
  (d.list dir).map fun listing => (oldest? (fragments listing)).map fun f => dir.join ⟨f.name⟩

def eraseIn (d : Disk) (dir : FilePath) (names : List String) : Disk :=
  match d.stat dir with
  | .ok (loc, _) => names.foldl (fun d name => d.erase (loc ++ [name])) d
  | .error _ => d

def enforceQuota (stop : Interruption) (d : Disk) (dir : FilePath) (maxBytes : Option Nat)
    (active : FilePath) : QuotaReport × Disk :=
  match maxBytes, d.list dir with
  | none, _ => (⟨.unbounded, [], 0⟩, d)
  | some _, .error _ => (⟨.ioFailure, [], 0⟩, d)
  | some max, .ok listing =>
      let isActive name := (dir.join ⟨name⟩).same active
      let report := (enforceOn stop (some max) isActive listing).1
      (report, eraseIn d dir report.removed)

end CameraServer.Recording
