import Cosmac.Proofs.Microcode.Simulation
import Cosmac.Machine.Start
import Mathlib

/-!
# Loading programs

A program that is loaded fills all of memory together with the glyphs and zeros (`Program.image`),
and one that is too large changes nothing (`Machine.load_of_large`, `Microcode.exec_load_of_fits`).
The file of a program is measured against the same bound before (`Program.fileBytes_eq_ok_iff`), and
any failure is a refusal unless the text of the path names no file at all
(`Program.isRefusal_of_fileBytes`). `Program.loading_all_or_nothing` says all of this together.
-/

set_option autoImplicit false

namespace Cosmac

/-! ### Memory -/

/-- What memory holds when a program has been loaded: the glyphs, zeros up to where programs start,
the program, and zeros. -/
def Program.image (bytes : Array UInt8) : List UInt8 :=
  Font.bytes.toList ++ List.replicate 432 0 ++ bytes.toList ++ List.replicate (3584 - bytes.size) 0

theorem Program.length_image {bytes : Array UInt8} (hfits : bytes.size ≤ maxProgramSize) :
    (image bytes).length = 4096 := by
  have hsize : bytes.size ≤ 3584 := hfits
  have hfont : Font.bytes.toList.length = 80 := rfl
  simp only [image, List.length_append, List.length_replicate, hfont, Array.length_toList]
  omega

namespace Microcode

/-- What is put over a part of a list of the same length replaces that part. -/
theorem overlay_append {α : Type} (before : List α) {part after ys : List α}
    (hpart : part.length = ys.length) :
    overlay (before ++ part ++ after) before.length ys = before ++ ys ++ after := by
  have htake : (before ++ part ++ after).take before.length = before := by
    rw [List.append_assoc, List.take_left]
  have hdrop : (before ++ part ++ after).drop (before.length + ys.length) = after := by
    rw [← hpart, ← List.length_append, List.drop_left]
  rw [overlay, htake, hdrop]

/-- The glyphs and a program over zeros are the image of the program. -/
theorem overlay_image {bytes : Array UInt8} (hfits : bytes.size ≤ maxProgramSize) :
    overlay (overlay (List.replicate 4096 0) 0 (numbers Font.bytes.toList)) 0x200
        (numbers bytes.toList) = numbers (Program.image bytes) := by
  have hsize : bytes.size ≤ 3584 := hfits
  have hlength : (numbers bytes.toList).length = bytes.size := length_numbers _
  have hzeros : List.replicate 4096 (0 : Int) =
      [] ++ List.replicate 80 0 ++ (List.replicate 432 0 ++
        (List.replicate bytes.size 0 ++ List.replicate (3584 - bytes.size) 0)) := by
    simp only [List.nil_append, List.replicate_append_replicate]
    congr 1
    omega
  have hglyphs : overlay (List.replicate 4096 0) 0 (numbers Font.bytes.toList) =
      (numbers Font.bytes.toList ++ List.replicate 432 0) ++ List.replicate bytes.size 0 ++
        List.replicate (3584 - bytes.size) 0 := by
    rw [hzeros]
    refine (overlay_append [] rfl).trans ?_
    simp only [List.nil_append, List.append_assoc]
  have hstart : 0x200 = (numbers Font.bytes.toList ++ List.replicate 432 (0 : Int)).length := by
    rw [List.length_append, List.length_replicate]
    rfl
  have hpart : (List.replicate bytes.size (0 : Int)).length = (numbers bytes.toList).length := by
    rw [List.length_replicate, hlength]
  rw [hglyphs, hstart, overlay_append _ hpart]
  simp only [Program.image, numbers, List.map_append, List.map_replicate, UInt8.toNat_zero,
    Int.natCast_zero]

theorem numbers_injective {xs ys : List UInt8} (hsame : numbers xs = numbers ys) : xs = ys :=
  List.map_injective_iff.mpr (fun _ _ hbyte ↦ UInt8.toNat_inj.mp (Int.ofNat_inj.mp hbyte)) hsame

/-- Loading a program that fits fills memory, whatever the cells held before. -/
theorem exec_load_of_fits {bytes : Array UInt8} (hfits : bytes.size ≤ maxProgramSize) (c : Cells) :
    (exec (load (numbers bytes.toList)) c).1 = .ok () ∧
      (exec (load (numbers bytes.toList)) c).2.memory = numbers (Program.image bytes) ∧
        (exec (load (numbers bytes.toList)) c).2.program = numbers bytes.toList := by
  have hsize : ¬ 3584 < (numbers bytes.toList).length := by
    rw [length_numbers]
    exact Nat.not_lt.mpr hfits
  rw [load, exec_ite, if_neg hsize, exec_bind_of_ok (exec_modify _ _), reset, exec_modify]
  exact ⟨rfl, overlay_image hfits, rfl⟩

end Microcode

/-- A program that fits fills the memory of a machine. -/
theorem Machine.toList_initialMemory (program : Program) :
    (initialMemory program).toList = Program.image program.bytes := by
  apply Microcode.numbers_injective
  rw [← Microcode.overlay_initialMemory, Microcode.overlay_image program.fits]

/-! ### Machines -/

theorem Program.ofBytes_of_fits {bytes : Array UInt8} (hfits : bytes.size ≤ maxProgramSize) :
    ofBytes bytes = .ok ⟨bytes, hfits⟩ :=
  dif_pos hfits

namespace Machine

variable (m : Machine) {bytes : Array UInt8}

theorem load_of_fits (hfits : bytes.size ≤ maxProgramSize) :
    m.load bytes = .ok (.powerOn ⟨bytes, hfits⟩ m.screen m.keypad m.source) := by
  rw [load, Program.ofBytes_of_fits hfits]

theorem load_of_large (hlarge : maxProgramSize < bytes.size) :
    m.load bytes = .error (.tooLarge bytes.size) := by
  rw [load, Program.ofBytes, dif_neg (Nat.not_le.mpr hlarge)]

theorem load_eq_error_iff : (∃ cause, m.load bytes = .error cause) ↔ 3584 < bytes.size := by
  constructor
  · rintro ⟨cause, hcause⟩
    by_contra hfits
    rw [load_of_fits m (Nat.not_lt.mp hfits)] at hcause
    cases hcause
  · exact fun hlarge ↦ ⟨_, load_of_large m hlarge⟩

end Machine

/-! ### Files -/

/-- Whether a text is the name of a file that there might be: it has no NUL character, and every
surrogate in it stands for a byte. -/
def Files.admits (text : String) : Bool :=
  (Text.unencodable? standsForByte 0 (Text.symbols text.toList)).isNone && !text.contains '\x00'

/-- A text that is no name has a flaw that is a misuse of it. -/
theorem Files.pathFlaw?_cases (text : String) :
    (∃ failure, pathFlaw? text = some failure ∧ failure.isMisuse = !admits text) ∨
      (pathFlaw? text = none ∧ admits text = true) := by
  unfold pathFlaw? admits
  cases Text.unencodable? standsForByte 0 (Text.symbols text.toList) with
  | some cause => exact .inl ⟨_, rfl, rfl⟩
  | none =>
    cases text.contains '\x00' with
    | true => exact .inl ⟨_, rfl, rfl⟩
    | false =>
      by_cases hlong : maxPathSize < byteCount text
      · exact .inl ⟨.nameTooLong, if_pos hlong, rfl⟩
      · exact .inr ⟨if_neg hlong, rfl⟩

/-- A file that cannot be read is there or might be, unless the text is no name. -/
theorem Files.isMisuse_of_read {files : Files} {text : String} {error : FileError}
    (hread : files.read text = .error error) : error.failure.isMisuse = !admits text := by
  unfold read at hread
  obtain ⟨failure, hflaw, hmisuse⟩ | ⟨hflaw, hadmits⟩ := pathFlaw?_cases text
  · rw [hflaw] at hread
    cases hread
    exact hmisuse
  · rw [hflaw] at hread
    rw [hadmits]
    cases hwalk : files.follow text with
    | found entry =>
      rw [hwalk] at hread
      cases entry with
      | file => cases hread
      | directory =>
        cases hread
        rfl
    | missing | blocked | tooLong =>
      rw [hwalk] at hread
      cases hread
      rfl

/-- What can be read has a name. -/
theorem Files.admits_of_read {files : Files} {text : String} {bytes : Array UInt8}
    (hread : files.read text = .ok bytes) : admits text = true := by
  obtain ⟨failure, hflaw, -⟩ | ⟨-, hadmits⟩ := pathFlaw?_cases text
  · rw [read, hflaw] at hread
    cases hread
  · exact hadmits

/-- Whether an error refuses a program, as every error does but that of a path that names no
file. -/
def ProgramError.isRefusal : ProgramError → Bool
  | unreadable _ cause => !cause.failure.isMisuse
  | tooLarge _ | emptyFile _ | fileTooLarge _ _ => true

namespace Program

variable {files : Files} {path : Path} {bytes : Array UInt8}

/-- The content of a program file is all of the file, which holds from one byte to as many as
fit. -/
theorem fileBytes_eq_ok_iff : fileBytes files path = .ok bytes ↔
    files.read path.toText = .ok bytes ∧ 1 ≤ bytes.size ∧ bytes.size ≤ 3584 := by
  unfold fileBytes
  cases files.read path.toText with
  | error cause => exact ⟨nofun, fun h ↦ nomatch h.1⟩
  | ok content =>
    have hempty : content.isEmpty = true ↔ content.size = 0 := Array.isEmpty_iff_size_eq_zero
    have hlarge : maxProgramSize = 3584 := rfl
    dsimp only
    split_ifs with hnone hmany
    · have hsize := hempty.mp hnone
      refine ⟨nofun, ?_⟩
      rintro ⟨hsame, hleast, -⟩
      cases hsame
      omega
    · refine ⟨nofun, ?_⟩
      rintro ⟨hsame, -, hmost⟩
      cases hsame
      omega
    · have hsize := mt hempty.mpr hnone
      constructor
      · intro hsame
        cases hsame
        exact ⟨rfl, by omega, by omega⟩
      · rintro ⟨hsame, -, -⟩
        cases hsame
        rfl

/-- The error of a program file is a refusal exactly if the path is a name of a file that there
might be. -/
theorem isRefusal_of_fileBytes {error : ProgramError}
    (herror : fileBytes files path = .error error) :
    error.isRefusal = Files.admits path.toText := by
  unfold fileBytes at herror
  cases hread : files.read path.toText with
  | error cause =>
    rw [hread] at herror
    cases herror
    rw [ProgramError.isRefusal, Files.isMisuse_of_read hread, Bool.not_not]
  | ok content =>
    rw [hread] at herror
    dsimp only at herror
    rw [Files.admits_of_read hread]
    split_ifs at herror <;> cases herror <;> rfl

theorem path?_of_fileBytes {error : ProgramError} (herror : fileBytes files path = .error error) :
    error.path? = some path := by
  unfold fileBytes at herror
  split at herror
  · cases herror
    rfl
  · split_ifs at herror <;> cases herror <;> rfl

/-- A machine, microcode in any state, and any files and path. A program is refused exactly if it
has more than 3584 bytes. Then nothing changes, and a reset loads the old program again. A program
that fits fills memory, all 4096 bytes of it, with the glyphs from the first byte on, itself from
where programs start, and zeros. A program file gives all of its bytes exactly if it can be read and
holds from one to 3584 of them. Otherwise, if the path has no NUL character and no surrogate that
stands for no byte, the program is refused with an error that names the path. So no content of a
program file is refused later. -/
theorem loading_all_or_nothing (m : Machine) (bytes : Array UInt8) (c : Microcode.Cells)
    (files : Files) (path : Path) :
    let written := Microcode.exec (Microcode.load (Microcode.numbers bytes.toList)) c
    ((∃ cause, m.load bytes = .error cause) ↔ 3584 < bytes.size) ∧
    (3584 < bytes.size →
      m.load bytes = .error (.tooLarge bytes.size) ∧ (m.perform (.load bytes)).2 = m ∧
        (m.perform (.load bytes)).2.reset.memory.toList = image m.program.bytes ∧
        written = (.error (.program bytes.size), c)) ∧
    (bytes.size ≤ 3584 →
      (∃ after, m.load bytes = .ok after ∧ after.memory.toList = image bytes) ∧
        written.1 = .ok () ∧ written.2.memory = Microcode.numbers (image bytes) ∧
        written.2.memory.length = 4096) ∧
    (∀ content, fileBytes files path = .ok content ↔
      files.read path.toText = .ok content ∧ 1 ≤ content.size ∧ content.size ≤ 3584) ∧
    (Files.admits path.toText = true → ∀ error, fileBytes files path = .error error →
      error.isRefusal = true ∧ error.path? = some path) ∧
    ∀ content, fileBytes files path = .ok content → ∃ after, m.load content = .ok after := by
  intro written
  refine ⟨m.load_eq_error_iff, fun hlarge ↦ ?_, fun hfits ↦ ?_, fun content ↦ fileBytes_eq_ok_iff,
    fun hadmits error herror ↦ ?_, fun content hcontent ↦ ?_⟩
  · have hload : m.load bytes = .error (.tooLarge bytes.size) := m.load_of_large hlarge
    have hkept : (m.perform (.load bytes)).2 = m := by rw [Machine.perform, hload]
    rw [hkept]
    exact ⟨hload, rfl, Machine.toList_initialMemory m.program,
      Microcode.exec_load_of_not_fits (Nat.not_le.mpr hlarge) c⟩
  · obtain ⟨hdone, hmemory, -⟩ := Microcode.exec_load_of_fits hfits c
    have hlength : written.2.memory.length = 4096 := by
      rw [hmemory, Microcode.length_numbers, length_image hfits]
    exact ⟨⟨_, m.load_of_fits hfits, Machine.toList_initialMemory ⟨bytes, hfits⟩⟩, hdone, hmemory,
      hlength⟩
  · exact ⟨(isRefusal_of_fileBytes herror).trans hadmits, path?_of_fileBytes herror⟩
  · obtain ⟨-, -, hfits⟩ := fileBytes_eq_ok_iff.mp hcontent
    exact ⟨_, m.load_of_fits hfits⟩

/-- A program with one byte too many is refused, and one of two bytes is read from its file. -/
theorem loading_all_or_nothing_of_full :
    let m : Machine := .powerOn ⟨#[0x12, 0x00], by decide⟩ .screen .idle .silent
    let bytes : Array UInt8 := .replicate 3585 0
    let files : Files := ⟨[], [(["p"], .file #[0x12, 0x00])]⟩
    (m.perform (.load bytes)).2 = m ∧
      fileBytes files ⟨.here, ["p"]⟩ = .ok #[0x12, 0x00] ∧
        ∃ after, m.load #[0x12, 0x00] = .ok after := by
  intro m bytes files
  have hlarge : 3584 < bytes.size := by rw [Array.size_replicate]; decide
  obtain ⟨-, hrefused, -, hfile, -, haccepted⟩ :=
    loading_all_or_nothing m bytes (m.cells []) files ⟨.here, ["p"]⟩
  have hcontent := (hfile #[0x12, 0x00]).mpr ⟨by cbv, by decide, by decide⟩
  exact ⟨(hrefused hlarge).2.1, hcontent, haccepted _ hcontent⟩

/-- A path that is a surrogate without a byte has no NUL character, and it is not refused as a
program: no file can have that name. -/
theorem surrogate_path_not_refused :
    let path : Path := ⟨.here, [String.ofList (Text.spelled [.surrogate 0xD800])]⟩
    path.toText.contains '\x00' = false ∧ ∀ files : Files, ∃ error,
      fileBytes files path = .error error ∧ error.isRefusal = false := by
  intro path
  have hadmits : Files.admits path.toText = false := by decide
  have hplain : path.toText.contains '\x00' = false := by
    rw [String.contains_char_eq]
    decide
  refine ⟨hplain, fun files ↦ ?_⟩
  cases hresult : fileBytes files path with
  | ok content =>
    have hnamed := Files.admits_of_read (fileBytes_eq_ok_iff.mp hresult).1
    rw [hadmits] at hnamed
    cases hnamed
  | error error => exact ⟨error, rfl, (isRefusal_of_fileBytes hresult).trans hadmits⟩

end Program

end Cosmac
