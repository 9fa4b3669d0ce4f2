import MobileGs.Wfb.SessionKeys

/-!
# Validating a key file

`ValidateGsKey` looks at the size of a key file only. `NativeKeys.validateKey` hands on its reason,
and nothing when the file is fine: each reason has a text, so the two can be told apart
(`validateKey_eq_none_iff`).

The size is enough to find a file that `GenerateKeyPair` has left unfinished: what is accepted
behind it is whole, or is not touched (`accepted_whole`).
-/

set_option autoImplicit false

namespace MobileGs

namespace Wfb

/-- The answers to the calls of `ValidateGsKey`: whether a file that exists can be opened, and how
many bytes can be read from it. -/
structure ReadAnswers where
  fopen : Bool := true
  fread : ℕ := keyFileSize + 1

structure KeyValidation where
  ok : Bool := false
  error : String := ""
  deriving DecidableEq

/-- `ValidateGsKey`. -/
def validateGsKey (answers : ReadAnswers) (disk : Disk) (path : String) : KeyValidation :=
  match disk path with
  | none => { error := "cannot open key file" }
  | some content =>
      if answers.fopen = false then { error := "cannot open key file" }
      else
        let read := min (min (keyFileSize + 1) content.length) answers.fread
        if read < keyFileSize then
          { error := "key file is too short: expected " ++ toString keyFileSize ++
              " bytes, got " ++ toString read }
        else if read > keyFileSize then
          { error := "key file is too long: expected exactly " ++ toString keyFileSize ++ " bytes" }
        else { ok := true }

/-- `nativeValidateKey`. -/
def nativeValidateKey (answers : ReadAnswers) (disk : Disk) (path : String) : String :=
  let validation := validateGsKey answers disk path
  if validation.ok then "" else validation.error

/-- `NativeKeys.validateKey`. -/
def validateKey (answers : ReadAnswers) (disk : Disk) (path : String) : Option String :=
  (some (nativeValidateKey answers disk path)).filter (· ≠ "")

/-- All of a file can be read. -/
def ReadAnswers.Whole (answers : ReadAnswers) : Prop :=
  answers.fopen = true ∧ keyFileSize + 1 ≤ answers.fread

section Validation

variable (answers : ReadAnswers) (disk : Disk) (path : String)

/-- A validation that fails says why. -/
theorem error_ne_empty (refused : (validateGsKey answers disk path).ok = false) :
    (validateGsKey answers disk path).error ≠ "" := by
  revert refused
  rw [validateGsKey]
  split
  · exact fun _ => by decide
  · split
    · exact fun _ => by decide
    · dsimp only
      split
      · intro _ no
        have front := congrArg String.toList no
        simp [String.toList_append] at front
      · split
        · exact fun _ => by decide
        · exact fun no => (by cases no)

/-- The app is told of no reason exactly when the file is accepted. -/
theorem validateKey_eq_none_iff :
    validateKey answers disk path = none ↔ (validateGsKey answers disk path).ok = true := by
  rw [validateKey, nativeValidateKey]
  cases ok : (validateGsKey answers disk path).ok with
  | true => simp
  | false => simpa [Option.filter_eq_none_iff] using error_ne_empty answers disk path ok

/-- What is accepted has the size of a key file, as far as it can be read. -/
theorem validateGsKey_ok_iff :
    (validateGsKey answers disk path).ok = true ↔
      answers.fopen = true ∧ ∃ content, disk path = some content ∧
        min (min (keyFileSize + 1) content.length) answers.fread = keyFileSize := by
  rw [validateGsKey]
  cases disk path with
  | none => simp
  | some content =>
      cases answers.fopen with
      | false => simp
      | true =>
          simp only [Bool.true_eq_false, if_false, Option.some.injEq, exists_eq_left', true_and]
          generalize min (min (keyFileSize + 1) content.length) answers.fread = read
          split
          · rename_i short
            exact ⟨nofun, fun same => absurd same short.ne⟩
          · split
            · rename_i long
              exact ⟨nofun, fun same => absurd same long.ne'⟩
            · exact ⟨fun _ => by omega, fun _ => rfl⟩

end Validation

/-- Of a front of a key file only the whole file is accepted. -/
theorem take_of_accepted {read : ReadAnswers} {disk : Disk} {path : String} {file : List Byte}
    {written : ℕ} (size : file.length = keyFileSize)
    (content : disk path = some (file.take written))
    (accepted : (validateGsKey read disk path).ok = true) : disk path = some file := by
  obtain ⟨-, content', same, enough⟩ := (validateGsKey_ok_iff read disk path).mp accepted
  obtain rfl : content' = file.take written := Option.some.inj (same.symm.trans content)
  rw [content, List.take_of_length_le]
  rw [List.length_take] at enough
  omega

/-- A whole key file is accepted. -/
theorem accepted_of_whole {read : ReadAnswers} {disk : Disk} {path : String} {file : List Byte}
    (size : file.length = keyFileSize) (content : disk path = some file) (whole : read.Whole) :
    (validateGsKey read disk path).ok = true := by
  refine (validateGsKey_ok_iff read disk path).mpr ⟨whole.1, file, content, ?_⟩
  have enough := whole.2
  omega

/-- **What `ValidateGsKey` accepts behind `GenerateKeyPair`**, whatever has failed there or was lost
when a file was closed: each of the two files only if it is whole, or not touched. And when no step
has failed and closing loses nothing, both are accepted, if they can be read. -/
theorem accepted_whole (answers : KeygenAnswers) (disk : Disk) {gsKeyPath droneKeyPath : String}
    (error : Option String) (different : gsKeyPath ≠ droneKeyPath) (read : ReadAnswers) :
    let left := (generateKeyPair answers disk gsKeyPath droneKeyPath error).disk
    ((validateGsKey read left gsKeyPath).ok = true →
        left gsKeyPath = disk gsKeyPath ∨ left gsKeyPath = some answers.gsFile) ∧
      ((validateGsKey read left droneKeyPath).ok = true →
        left droneKeyPath = disk droneKeyPath ∨ left droneKeyPath = some answers.droneFile) ∧
      (answers.failedAt = none → answers.gsWrite.Flushed → answers.droneWrite.Flushed →
        read.Whole → (validateGsKey read left gsKeyPath).ok = true ∧
          (validateGsKey read left droneKeyPath).ok = true) := by
  intro left
  have settled : left = answers.left disk gsKeyPath droneKeyPath answers.failedAt :=
    congrArg Written.disk (generateKeyPair_eq answers disk gsKeyPath droneKeyPath error)
  have gs : left gsKeyPath = disk gsKeyPath ∨
      left gsKeyPath = some (answers.gsFile.take answers.gsWrite.written) := by
    rw [settled]
    rcases answers.failedAt with _ | _ | _ | _ | _ | _ | _ <;>
      simp [KeygenAnswers.left, different]
  have drone : left droneKeyPath = disk droneKeyPath ∨
      left droneKeyPath = some (answers.droneFile.take answers.droneWrite.written) := by
    rw [settled]
    rcases answers.failedAt with _ | _ | _ | _ | _ | _ | _ <;>
      simp [KeygenAnswers.left, different.symm]
  refine ⟨fun accepted => gs.imp_right fun content => ?_,
    fun accepted => drone.imp_right fun content => ?_,
    fun unfailed gsFlushed droneFlushed whole => ?_⟩
  · exact take_of_accepted answers.length_gsFile content accepted
  · exact take_of_accepted answers.length_droneFile content accepted
  · rw [settled, unfailed]
    have gsFile := take_written answers.length_gsFile (gsWrite_of_failedAt (.inl unfailed))
      (gsFlushed (gsWrite_of_failedAt (.inl unfailed)))
    have droneFile := take_written answers.length_droneFile (droneWrite_of_failedAt unfailed)
      (droneFlushed (droneWrite_of_failedAt unfailed))
    constructor
    · refine accepted_of_whole answers.length_gsFile ?_ whole
      rw [KeygenAnswers.left, Function.update_of_ne different, Function.update_self, gsFile]
    · refine accepted_of_whole answers.length_droneFile ?_ whole
      rw [KeygenAnswers.left, Function.update_self, droneFile]

/-- Closing the second file loses it. The first is accepted, and the second is not. -/
theorem accepted_whole_lost :
    let left := (generateKeyPair (sampleKeygen wholeWrite lostWrite) pairedDisk "gs.key" "drone.key"
      none).disk
    (left "gs.key" = pairedDisk "gs.key" ∨
        left "gs.key" = some (sampleKeygen wholeWrite lostWrite).gsFile) ∧
      validateKey {} left "gs.key" = none ∧
      validateKey {} left "drone.key" =
        some "key file is too short: expected 64 bytes, got 0" := by
  have accepted : (validateGsKey {} (generateKeyPair (sampleKeygen wholeWrite lostWrite) pairedDisk
      "gs.key" "drone.key" none).disk "gs.key").ok = true := by
    decide +kernel
  refine ⟨(accepted_whole (sampleKeygen wholeWrite lostWrite) pairedDisk none (by decide) {}).1
    accepted, (validateKey_eq_none_iff _ _ _).mpr accepted, ?_⟩
  decide +kernel

end Wfb

end MobileGs
