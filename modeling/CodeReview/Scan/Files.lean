/-
Scanning files on a disk. A file that cannot be read, or whose scan fails, is a notice and has no
result; it takes nothing from the others. Many files are scanned in batches, which leave no trace in the
results (`flatten_batches`).
-/
import CodeReview.Disk
import CodeReview.Scan.Scanner
import CodeReview.Scan.Workspace

namespace CodeReview.Scanner

/-- Scans the file at a path. -/
def scanFile (s : Scanner) (disk : Disk) (path : String) (useLinter : Bool) :
    Act Shell ScanResult := do
  if ← Act.ofExcept (s.leavesOut path) then return .leftOut path
  let size : Amount := .int (← Act.ofExcept (disk.size path))
  if ← Act.ofExcept (s.isOversized size) then Act.ofExcept (oversizedResult path size)
  else
    let text ← Act.ofExcept (disk.readText path)
    s.scan (String.ofList text) path (some size) useLinter

/-- The notice of a scan that failed. -/
def failureNotice (path : String) (fault : Fault) : Notice :=
  match fault with
  | .undecodable _ => .unreadableFile path
  | fault => if fault.isStorageFault then .unreadableFile path else .scanFailed path

/-- Scans the file at a path, if it can be scanned. -/
def scanFile? (s : Scanner) (disk : Disk) (path : String) (useLinter : Bool) :
    Act Shell (Option ScanResult) := do
  match ← Act.attempt (s.scanFile disk path useLinter) with
  | .ok result => return some result
  | .error fault =>
    Act.note (failureNotice path fault)
    return none

/-! ## Many files -/

/-- The items in batches of `size`, in order; the last may be smaller. No batch is empty. -/
def batches {α : Type} (size : Nat) : List α → List (List α)
  | [] => []
  | item :: rest => (item :: rest.take (size - 1)) :: batches size (rest.drop (size - 1))
termination_by items => items.length
decreasing_by simp only [List.length_drop, List.length_cons]; omega

theorem flatten_batches {α : Type} (size : Nat) (items : List α) :
    (batches size items).flatten = items := by
  fun_induction batches size items with
  | case1 => rfl
  | case2 item rest ih => simp [ih]

/-- How many files are open at a time; fewer if the linter is asked about each. -/
def batchSize (useLinter : Bool) : Nat := if useLinter then 5 else 10

/-- Scans the files of a batch. -/
def scanBatch (s : Scanner) (disk : Disk) (useLinter : Bool) :
    List String → Act Shell (List (Option ScanResult))
  | [] => return []
  | path :: paths => do
    let result ← s.scanFile? disk path useLinter
    return result :: (← scanBatch s disk useLinter paths)

/-- The results that count: those of files that could be scanned and are not left out. -/
def counted (results : List (Option ScanResult)) : List ScanResult :=
  (results.filterMap id).filter (!·.excluded)

/-- The results of the files of some batches. A batch is begun when the one before it is done. -/
def scanBatches (s : Scanner) (disk : Disk) (useLinter : Bool) :
    List (List String) → Act Shell (List ScanResult)
  | [] => return []
  | batch :: more => do
    let results ← s.scanBatch disk useLinter batch
    return counted results ++ (← scanBatches s disk useLinter more)

/-- Scans the files at some paths. -/
def scanAll (s : Scanner) (disk : Disk) (paths : List String) (useLinter : Bool) :
    Act Shell Workspace := do
  let results ← s.scanBatches disk useLinter (batches (batchSize useLinter) paths)
  Act.ofExcept (Workspace.ofResults results 0)

end CodeReview.Scanner
