import Mathlib
import PageCheck.Proofs.SpecFile.Numbers
import PageCheck.Proofs.Text.Lines
import PageCheck.Proofs.Text.Utf8
import PageCheck.SpecFile.Load

/-!
# Files and the texts in them

A file is read as the text whose bytes it holds. That its line ends are unified on the way changes no
line, nor the number of one. Bytes that are those of no text are refused before a line is read.
-/

namespace PageCheck

set_option autoImplicit false

theorem Files.textOf_utf8 (s : String) :
    textOf s.toUTF8.data.toList = .ok (String.ofList (Text.unifyLineEnds s.toList)) := by
  rw [textOf, ← Text.encode_eq, Text.decode_encode]
  rfl

theorem Files.textOf_fails {octets : List UInt8} (h : ∀ s : String, octets ≠ s.toUTF8.data.toList) :
    ∃ fault, textOf octets = .error fault := by
  cases hRead : Text.decode octets with
  | error fault =>
    rw [textOf, hRead]
    exact ⟨fault, rfl⟩
  | ok s =>
    have hBytes : octets = s.toUTF8.data.toList := by
      rw [Text.decode_eq_ok_iff.mp hRead, Text.encode_eq]
    exact absurd hBytes (h s)

namespace SpecFile

theorem read_unifyLineEnds (limit : Int) (s : String) :
    read limit (String.ofList (Text.unifyLineEnds s.toList)) = read limit s := by
  have hLines : linesOf limit (Text.unifyLineEnds s.toList) = linesOf limit s.toList := by
    rw [linesOf, Text.lines_unifyLineEnds, linesOf]
  rw [read, String.toList_ofList, hLines, read]

theorem readBytes_utf8 (limit : Int) (s : String) :
    readBytes limit s.toUTF8.data.toList = read limit s := by
  rw [readBytes, Files.textOf_utf8]
  exact read_unifyLineEnds limit s

theorem readBytes_fails (limit : Int) {octets : List UInt8}
    (h : ∀ s : String, octets ≠ s.toUTF8.data.toList) :
    ∃ fault, readBytes limit octets = ⟨.error (.notText fault), []⟩ := by
  obtain ⟨fault, hText⟩ := Files.textOf_fails h
  rw [readBytes, hText]
  exact ⟨fault, rfl⟩

variable {files : Files} {path p : Path} {octets : List UInt8}

theorem load_eq_readBytes (limit : Int) (hPath : path.expand? files.home = some p)
    (hFile : files.bytes p = .ok octets) : load files limit path = readBytes limit octets := by
  rw [load, hPath]
  simp only [hFile]

/-- Loading a file is reading the text in it, with the same lines and the same log. A file that holds
no text is refused, and the log says nothing of its lines. -/
theorem load_reads_text (limit : Int) (hPath : path.expand? files.home = some p)
    (hFile : files.bytes p = .ok octets) :
    (∀ s : String, octets = s.toUTF8.data.toList →
      load files limit path = read limit s) ∧
    ((∀ s : String, octets ≠ s.toUTF8.data.toList) →
      ∃ fault, load files limit path = ⟨.error (.notText fault), []⟩) := by
  rw [load_eq_readBytes limit hPath hFile]
  constructor
  · rintro s rfl
    exact readBytes_utf8 limit s
  · exact readBytes_fails limit

/-- Of the three line ends in the first file the last one has two characters. The second file breaks
off within a character. -/
theorem load_reads_text_torn :
    let whole := "u\n\r\r\nv"
    let torn : List UInt8 := [0x75, 0x0A, 0xE2, 0x82]
    let files : Files :=
      ⟨⟨"/", []⟩, ⟨⟨"/", ["home"]⟩, []⟩, [(["s"], .file whole.toUTF8.data.toList), (["t"], .file torn)]⟩
    (Path.ofText "s").expand? files.home = some ⟨"", ["s"]⟩ ∧
      files.bytes ⟨"", ["s"]⟩ = .ok whole.toUTF8.data.toList ∧
      load files 0 (.ofText "s") = read 0 whole ∧
      (read 0 whole).value = .ok [⟨1, "u", .error ⟨.spec, "u", some 1⟩⟩,
        ⟨4, "v", .error ⟨.spec, "v", some 4⟩⟩] ∧
      (Path.ofText "t").expand? files.home = some ⟨"", ["t"]⟩ ∧
      files.bytes ⟨"", ["t"]⟩ = .ok torn ∧ (∀ s : String, torn ≠ s.toUTF8.data.toList) ∧
      ∃ fault, load files 0 (.ofText "t") = ⟨.error (.notText fault), []⟩ := by
  intro whole torn files
  have hWholePath : (Path.ofText "s").expand? files.home = some ⟨"", ["s"]⟩ := by cbv
  have hWhole : files.bytes ⟨"", ["s"]⟩ = .ok whole.toUTF8.data.toList := rfl
  have hLines : linesOf 0 "u\n\r\r\nv".toList = [⟨1, "u", .error ⟨.spec, "u", some 1⟩⟩,
      ⟨4, "v", .error ⟨.spec, "v", some 4⟩⟩] := by rfl
  have hSize : (Text.lines "u\n\r\r\nv".toList).length < Nat.pow 10 Text.digitLimit :=
    Text.lt_pow_of_lt_ten (by decide)
  have hRead : (read 0 "u\n\r\r\nv").value = .ok [⟨1, "u", .error ⟨.spec, "u", some 1⟩⟩,
      ⟨4, "v", .error ⟨.spec, "v", some 4⟩⟩] := by
    rw [read_of_short (Text.isLong_of_lt_ten (by decide)) hSize, hLines]
  have hTornPath : (Path.ofText "t").expand? files.home = some ⟨"", ["t"]⟩ := by cbv
  have hTorn : files.bytes ⟨"", ["t"]⟩ = .ok torn := rfl
  have hNone : ∀ s : String, torn ≠ s.toUTF8.data.toList := by
    intro s hBytes
    have hRead := Text.decode_encode s
    rw [Text.encode_eq, ← hBytes] at hRead
    have hFault : Text.decode torn = .error ⟨.cutShort, 2, 2, 0xE2⟩ := by cbv
    cases hFault.symm.trans hRead
  exact ⟨hWholePath, hWhole, (load_reads_text 0 hWholePath hWhole).1 whole rfl, hRead, hTornPath,
    hTorn, hNone, (load_reads_text 0 hTornPath hTorn).2 hNone⟩

end SpecFile

end PageCheck
