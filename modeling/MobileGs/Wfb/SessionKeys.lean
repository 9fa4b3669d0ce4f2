import Mathlib.Logic.Function.Basic
import MobileGs.Foundations.LittleEndian

/-!
# Generating a pair of key files

`GenerateKeyPair` makes two key pairs and writes the two files in place, that of the ground station
first. What the libraries answer is a parameter of the model: the outcome of every call, and how
much of a file's content has reached the file when it is closed.

Six steps can fail, and the first that does decides what is left (`generateKeyPair_eq`). Up to
the opening of the first file nothing has changed. From there on the old content of that file is
gone, and nothing brings it back.
-/

set_option autoImplicit false

namespace MobileGs

namespace Wfb

/-! ## Files -/

/-- The content of the files, by their path. A file that does not exist has none. -/
abbrev Disk := String → Option (List Byte)

def keyFileSize : ℕ := 64

/-- The answers to the calls of `WriteFile`: whether each succeeds, and the number of bytes that are
in the file once it is closed. They are all there when `fwrite` and `fclose` both succeed; what
`fwrite` has taken may still be lost when `fclose` fails. -/
structure WriteAnswers where
  fopen : Bool
  fwrite : Bool
  fclose : Bool
  written : ℕ
  delivered : fwrite = true → fclose = true → keyFileSize ≤ written

/-- What a call leaves on the disk, returns, and leaves in the string `error` points to, if it
points to one. -/
structure Written where
  disk : Disk
  ok : Bool
  error : Option String

/-- `WriteFile`. Opening empties the file, or creates it. -/
def writeFile (answers : WriteAnswers) (disk : Disk) (path : String) (data : List Byte)
    (error : Option String) : Written :=
  if answers.fopen = false then
    { disk, ok := false, error := error.map fun _ => "unable to open " ++ path ++ " for writing" }
  else
    { disk := Function.update disk path (some (data.take answers.written))
      ok := answers.fwrite
      error := if answers.fwrite then error else error.map fun _ => "short write to " ++ path }

/-! ## Keys -/

/-- A key pair of `crypto_box`. -/
structure KeyPair where
  publicKey : List Byte
  secretKey : List Byte
  publicKey_length : publicKey.length = 32
  secretKey_length : secretKey.length = 32

/-- The answers to the calls of `GenerateKeyPair`. -/
structure KeygenAnswers where
  sodiumInit : Int32
  gsKeypair : Int32
  droneKeypair : Int32
  gs : KeyPair
  drone : KeyPair
  gsWrite : WriteAnswers
  droneWrite : WriteAnswers

namespace KeygenAnswers

variable (answers : KeygenAnswers)

/-- `gs_file`. -/
def gsFile : List Byte := answers.gs.secretKey ++ answers.drone.publicKey

/-- `drone_file`. -/
def droneFile : List Byte := answers.drone.secretKey ++ answers.gs.publicKey

theorem length_gsFile : answers.gsFile.length = keyFileSize := by
  rw [gsFile, List.length_append, answers.gs.secretKey_length, answers.drone.publicKey_length]
  rfl

theorem length_droneFile : answers.droneFile.length = keyFileSize := by
  rw [droneFile, List.length_append, answers.drone.secretKey_length,
    answers.gs.publicKey_length]
  rfl

end KeygenAnswers

/-- `GenerateKeyPair`. -/
def generateKeyPair (answers : KeygenAnswers) (disk : Disk) (gsKeyPath droneKeyPath : String)
    (error : Option String) : Written :=
  if answers.sodiumInit < 0 then
    { disk, ok := false, error := error.map fun _ => "libsodium initialisation failed" }
  else if answers.gsKeypair ≠ 0 ∨ answers.droneKeypair ≠ 0 then
    { disk, ok := false, error := error.map fun _ => "key generation failed" }
  else
    let gs := writeFile answers.gsWrite disk gsKeyPath answers.gsFile error
    if gs.ok then writeFile answers.droneWrite gs.disk droneKeyPath answers.droneFile gs.error
    else gs

/-! ## The first step that fails -/

/-- The steps that can fail, in their order. -/
inductive KeygenStage where
  | sodium
  | keypair
  | gsOpen
  | gsWrite
  | droneOpen
  | droneWrite
  deriving DecidableEq, Repr

/-- The first step that fails, if one does. -/
def KeygenAnswers.failedAt (answers : KeygenAnswers) : Option KeygenStage :=
  if answers.sodiumInit < 0 then some .sodium
  else if answers.gsKeypair ≠ 0 ∨ answers.droneKeypair ≠ 0 then some .keypair
  else if answers.gsWrite.fopen = false then some .gsOpen
  else if answers.gsWrite.fwrite = false then some .gsWrite
  else if answers.droneWrite.fopen = false then some .droneOpen
  else if answers.droneWrite.fwrite = false then some .droneWrite
  else none

/-- The text a failing step leaves. -/
def KeygenStage.text (gsKeyPath droneKeyPath : String) : KeygenStage → String
  | sodium => "libsodium initialisation failed"
  | keypair => "key generation failed"
  | gsOpen => "unable to open " ++ gsKeyPath ++ " for writing"
  | gsWrite => "short write to " ++ gsKeyPath
  | droneOpen => "unable to open " ++ droneKeyPath ++ " for writing"
  | droneWrite => "short write to " ++ droneKeyPath

/-- What is on the disk when a step has failed, or none. -/
def KeygenAnswers.left (answers : KeygenAnswers) (disk : Disk) (gsKeyPath droneKeyPath : String) :
    Option KeygenStage → Disk
  | some .sodium | some .keypair | some .gsOpen => disk
  | some .gsWrite | some .droneOpen =>
      Function.update disk gsKeyPath (some (answers.gsFile.take answers.gsWrite.written))
  | some .droneWrite | none =>
      Function.update
        (Function.update disk gsKeyPath (some (answers.gsFile.take answers.gsWrite.written)))
        droneKeyPath (some (answers.droneFile.take answers.droneWrite.written))

/-- **The first step that fails decides** what is left on the disk, what is returned and which error
is told. -/
theorem generateKeyPair_eq (answers : KeygenAnswers) (disk : Disk)
    (gsKeyPath droneKeyPath : String) (error : Option String) :
    generateKeyPair answers disk gsKeyPath droneKeyPath error =
      { disk := answers.left disk gsKeyPath droneKeyPath answers.failedAt
        ok := answers.failedAt.isNone
        error :=
          match answers.failedAt with
          | none => error
          | some stage => error.map fun _ => stage.text gsKeyPath droneKeyPath } := by
  rw [generateKeyPair, KeygenAnswers.failedAt]
  by_cases sodium : answers.sodiumInit < 0
  · rw [if_pos sodium, if_pos sodium]
    rfl
  rw [if_neg sodium, if_neg sodium]
  by_cases keypair : answers.gsKeypair ≠ 0 ∨ answers.droneKeypair ≠ 0
  · rw [if_pos keypair, if_pos keypair]
    rfl
  rw [if_neg keypair, if_neg keypair]
  dsimp only [writeFile]
  cases gsOpen : answers.gsWrite.fopen with
  | false => rfl
  | true =>
      cases gsWrite : answers.gsWrite.fwrite with
      | false => rfl
      | true =>
          cases droneOpen : answers.droneWrite.fopen with
          | false => rfl
          | true => cases droneWrite : answers.droneWrite.fwrite <;> rfl

/-- A file whose writing succeeded and that was closed without an error is complete. -/
theorem take_written {answers : WriteAnswers} {data : List Byte}
    (size : data.length = keyFileSize) (fwrite : answers.fwrite = true)
    (fclose : answers.fclose = true) : data.take answers.written = data :=
  List.take_of_length_le (size.trans_le (answers.delivered fwrite fclose))

/-- `fclose` fails for no file that `fwrite` has taken whole. -/
def WriteAnswers.Flushed (answers : WriteAnswers) : Prop :=
  answers.fwrite = true → answers.fclose = true

/-- What holds of the two files and of all others behind `GenerateKeyPair`, by the step that
failed. -/
def KeygenAnswers.Holds (answers : KeygenAnswers) (disk disk' : Disk)
    (gsKeyPath droneKeyPath : String) : Option KeygenStage → Prop
  | none => disk' gsKeyPath = some answers.gsFile ∧ disk' droneKeyPath = some answers.droneFile
  | some .sodium | some .keypair | some .gsOpen =>
      disk' gsKeyPath = disk gsKeyPath ∧ disk' droneKeyPath = disk droneKeyPath
  | some .gsWrite =>
      (∃ part, part <+: answers.gsFile ∧ disk' gsKeyPath = some part) ∧
        disk' droneKeyPath = disk droneKeyPath
  | some .droneOpen =>
      disk' gsKeyPath = some answers.gsFile ∧ disk' droneKeyPath = disk droneKeyPath
  | some .droneWrite =>
      disk' gsKeyPath = some answers.gsFile ∧
        ∃ part, part <+: answers.droneFile ∧ disk' droneKeyPath = some part

/-- The first file is written when the second is turned to. -/
theorem gsWrite_of_failedAt {answers : KeygenAnswers}
    (later : answers.failedAt = none ∨ answers.failedAt = some .droneOpen ∨
      answers.failedAt = some .droneWrite) : answers.gsWrite.fwrite = true := by
  by_contra short
  have stopped : answers.failedAt = some .sodium ∨ answers.failedAt = some .keypair ∨
      answers.failedAt = some .gsOpen ∨ answers.failedAt = some .gsWrite := by
    rw [KeygenAnswers.failedAt, if_pos (Bool.eq_false_of_not_eq_true short)]
    split
    · exact .inl rfl
    split
    · exact .inr (.inl rfl)
    split
    · exact .inr (.inr (.inl rfl))
    · exact .inr (.inr (.inr rfl))
  rcases stopped with stage | stage | stage | stage <;> simp [stage] at later

/-- The second file is written when nothing fails. -/
theorem droneWrite_of_failedAt {answers : KeygenAnswers} (unfailed : answers.failedAt = none) :
    answers.droneWrite.fwrite = true := by
  by_contra short
  rw [KeygenAnswers.failedAt, if_pos (Bool.eq_false_of_not_eq_true short)] at unfailed
  split at unfailed
  · cases unfailed
  split at unfailed
  · cases unfailed
  split at unfailed
  · cases unfailed
  split at unfailed
  · cases unfailed
  split at unfailed <;> cases unfailed

/-- **What `GenerateKeyPair` leaves**, when closing loses nothing that was written: it returns true
exactly when no step fails, and then both files are complete and of the same two pairs. Otherwise
the step that failed says what each file holds. No other file changes. -/
theorem generateKeyPair_settles (answers : KeygenAnswers) (disk : Disk)
    {gsKeyPath droneKeyPath : String} (error : Option String) (different : gsKeyPath ≠ droneKeyPath)
    (gsFlushed : answers.gsWrite.Flushed) (droneFlushed : answers.droneWrite.Flushed) :
    ((generateKeyPair answers disk gsKeyPath droneKeyPath error).ok = true ↔
        answers.failedAt = none) ∧
      answers.Holds disk (generateKeyPair answers disk gsKeyPath droneKeyPath error).disk
        gsKeyPath droneKeyPath answers.failedAt ∧
      (∀ path, path ≠ gsKeyPath → path ≠ droneKeyPath →
        (generateKeyPair answers disk gsKeyPath droneKeyPath error).disk path = disk path) ∧
      answers.gsFile.length = keyFileSize ∧ answers.droneFile.length = keyFileSize := by
  have gsWhole : answers.gsWrite.fwrite = true →
      answers.gsFile.take answers.gsWrite.written = answers.gsFile :=
    fun fwrite => take_written answers.length_gsFile fwrite (gsFlushed fwrite)
  have droneWhole : answers.droneWrite.fwrite = true →
      answers.droneFile.take answers.droneWrite.written = answers.droneFile :=
    fun fwrite => take_written answers.length_droneFile fwrite (droneFlushed fwrite)
  have returned : (generateKeyPair answers disk gsKeyPath droneKeyPath error).ok =
      answers.failedAt.isNone := by rw [generateKeyPair_eq]
  have left : (generateKeyPair answers disk gsKeyPath droneKeyPath error).disk =
      answers.left disk gsKeyPath droneKeyPath answers.failedAt := by rw [generateKeyPair_eq]
  rw [returned, left]
  refine ⟨Option.isNone_iff_eq_none, ?_, ?_, answers.length_gsFile, answers.length_droneFile⟩
  · cases stage : answers.failedAt with
    | none =>
        constructor
        · rw [KeygenAnswers.left, Function.update_of_ne different, Function.update_self,
            gsWhole (gsWrite_of_failedAt (.inl stage))]
        · rw [KeygenAnswers.left, Function.update_self,
            droneWhole (droneWrite_of_failedAt stage)]
    | some stage' =>
        cases stage' with
        | sodium => exact ⟨rfl, rfl⟩
        | keypair => exact ⟨rfl, rfl⟩
        | gsOpen => exact ⟨rfl, rfl⟩
        | gsWrite =>
            exact ⟨⟨_, List.take_prefix _ _, Function.update_self ..⟩,
              Function.update_of_ne different.symm ..⟩
        | droneOpen =>
            constructor
            · rw [KeygenAnswers.left, Function.update_self,
                gsWhole (gsWrite_of_failedAt (.inr (.inl stage)))]
            · exact Function.update_of_ne different.symm ..
        | droneWrite =>
            constructor
            · rw [KeygenAnswers.left, Function.update_of_ne different, Function.update_self,
                gsWhole (gsWrite_of_failedAt (.inr (.inr stage)))]
            · exact ⟨_, List.take_prefix _ _, Function.update_self ..⟩
  · intro path other other'
    cases answers.failedAt with
    | none => simp [KeygenAnswers.left, other, other']
    | some stage => cases stage <;> simp [KeygenAnswers.left, other, other']

/-- A pair of zeros and a pair of ones. -/
def sampleKeygen (gsWrite droneWrite : WriteAnswers) : KeygenAnswers where
  sodiumInit := 0
  gsKeypair := 0
  droneKeypair := 0
  gs := ⟨List.replicate 32 0, List.replicate 32 0, by decide, by decide⟩
  drone := ⟨List.replicate 32 1, List.replicate 32 1, by decide, by decide⟩
  gsWrite := gsWrite
  droneWrite := droneWrite

/-- Everything succeeds. -/
def wholeWrite : WriteAnswers := ⟨true, true, true, 64, fun _ _ => by decide⟩

/-- The file cannot be opened. -/
def refusedWrite : WriteAnswers := ⟨false, false, false, 0, fun no => by cases no⟩

/-- `fwrite` takes everything, and closing the file loses it. -/
def lostWrite : WriteAnswers := ⟨true, true, false, 0, fun _ no => by cases no⟩

/-- Two files that hold a pair. -/
def pairedDisk : Disk := fun path =>
  if path = "gs.key" then some (List.replicate 64 2)
  else if path = "drone.key" then some (List.replicate 64 3)
  else none

/-- The second file cannot be opened: the call fails, and the first file is that of another pair.
And closing the second file loses it: the call succeeds, and the file is empty. -/
theorem generateKeyPair_in_place :
    (generateKeyPair (sampleKeygen wholeWrite refusedWrite) pairedDisk "gs.key" "drone.key"
        (some "")).ok = false ∧
      (generateKeyPair (sampleKeygen wholeWrite refusedWrite) pairedDisk "gs.key" "drone.key"
        (some "")).disk "gs.key" ≠ pairedDisk "gs.key" ∧
      (generateKeyPair (sampleKeygen wholeWrite refusedWrite) pairedDisk "gs.key" "drone.key"
        (some "")).disk "drone.key" = pairedDisk "drone.key" ∧
      (generateKeyPair (sampleKeygen wholeWrite lostWrite) pairedDisk "gs.key" "drone.key"
        (some "")).ok = true ∧
      (generateKeyPair (sampleKeygen wholeWrite lostWrite) pairedDisk "gs.key" "drone.key"
        (some "")).disk "drone.key" = some [] := by
  decide +kernel

/-- The same call over the two files, with the second refused. -/
theorem generateKeyPair_settles_refused :
    (sampleKeygen wholeWrite refusedWrite).Holds pairedDisk
      (generateKeyPair (sampleKeygen wholeWrite refusedWrite) pairedDisk "gs.key" "drone.key"
        (some "")).disk "gs.key" "drone.key" (some .droneOpen) :=
  (generateKeyPair_settles (sampleKeygen wholeWrite refusedWrite) pairedDisk (some "")
    (by decide) (fun _ => rfl) (fun no => by cases no)).2.1

end Wfb

end MobileGs
