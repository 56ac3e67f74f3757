import WikiMarkup.Proofs.Code.LineEnd
import WikiMarkup.Proofs.Conversion.Declaration

/-!
# What a page with carriage returns declares

Scripts stand on one line, so that a carriage return in front of a line feed is no part of one. The
code of a page is another thing: with carriage returns fenced blocks go on to the end of the page and
code spans go over blank lines, and a script in them is not run. What the page declares is told by the
scripts that stand outside of such code.
-/

namespace WikiMarkup

open Text

namespace Script

/-- A script stands on one line. -/
theorem feed_not_mem_source {prev : Option Char} {t : Text} {s : Script} {n : Nat}
    (h : recognise prev t = some (s, n)) : '\n' ∉ s.source := by
  obtain ⟨-, hbody, hsource, -, -⟩ := recognise_eq_some_iff.mp h
  have hline : '\n' ∉ s.body := by
    intro hmem
    cases hbody _ hmem
  rw [hsource]
  simp [hline]

/-- Carriage returns make no difference to a script. -/
theorem recognise_crlf (prev : Option Char) (t : Text) :
    recognise prev (crlf t) = recognise prev t := by
  refine Option.ext fun ⟨s, n⟩ => ?_
  rw [recognise_eq_some_iff, recognise_eq_some_iff]
  refine and_congr_right fun hne => and_congr_right fun hbody => and_congr_right fun hsource =>
    and_congr_right fun hlength => prefix_crlf_iff ?_ ?_
  · have hself : recognise prev s.source = some (s, n) :=
      recognise_eq_some_iff.mpr ⟨hne, hbody, hsource, hlength, List.prefix_refl _⟩
    exact feed_not_mem_source hself
  · rw [hsource, List.getLast?_append]
    simp

/-- In a text with carriage returns the same scripts are found. -/
theorem follows_recognise : Follows recognise recognise id where
  feed := fun _ _ => rfl
  return' := fun _ _ => rfl
  feed' := fun _ => rfl
  length := by
    intro prev t s n h
    obtain ⟨-, -, hsource, rfl, hprefix⟩ := recognise_eq_some_iff.mp h
    refine ⟨?_, hprefix.length_le⟩
    rw [hsource]
    simp
  found := by
    intro prev c t _
    rw [recognise_crlf]
    cases h : recognise prev (c :: t) with
    | none => rfl
    | some found =>
      obtain ⟨s, n⟩ := found
      obtain ⟨-, -, -, hlength, -⟩ := recognise_eq_some_iff.mp h
      have hspan : (crlf ((c :: t).take n)).length = n := by
        rw [← source_eq_take h, crlf_eq_self (feed_not_mem_source h), ← hlength]
      simp [hspan]

end Script

namespace Conversion

open Shield

theorem performed_crlf (setup : Setup) (t : Text) :
    performed setup (crlf t) = performed setup t := by
  rw [performed, Script.follows_recognise.segments, List.map_id, performed]

/-- A page whose lines end with carriage returns declares what its scripts say that stand outside of
its code, where fenced blocks go on to the end of the page and code spans may go over blank lines. So it
declares the same as without them exactly if the scripts outside of such code say the same as those
outside of its code proper, and this they do if they are the same scripts. -/
theorem declaration_prepare_crlf (setup : Setup) (t : Text) :
    (prepare setup (crlf t) {}).2.declaration =
        declared setup (performed setup (protectCoarse t).text) ∧
      ((prepare setup (crlf t) {}).2.declaration = (prepare setup t {}).2.declaration ↔
        declared setup (performed setup (protectCoarse t).text) =
          declared setup (performed setup (protect t).text)) ∧
      (segments Script.recognise (protectCoarse t).text =
          segments Script.recognise (protect t).text →
        (prepare setup (crlf t) {}).2.declaration = (prepare setup t {}).2.declaration) := by
  have hcrlf : (prepare setup (crlf t) {}).2.declaration =
      declared setup (performed setup (protectCoarse t).text) := by
    rw [(prepare_snd setup (crlf t)).1, protect_crlf, Shielded.crlf, performed_crlf]
  have hplain : (prepare setup t {}).2.declaration =
      declared setup (performed setup (protect t).text) := (prepare_snd setup t).1
  rw [hcrlf, hplain]
  refine ⟨rfl, Iff.rfl, fun hscripts => ?_⟩
  rw [performed, hscripts, performed]

/-- Scripts before and behind a code span. -/
theorem declaration_prepare_crlf_span :
    let setup : Setup := .bare ⟨"doc".toList, "en".toList, homepage⟩
    let t := "\x7b\x7btitle: A\x7d\x7d\n\n\x60x\x60\n\x7b\x7btags: b, c\x7d\x7d\n".toList
    segments Script.recognise (protectCoarse t).text =
        segments Script.recognise (protect t).text ∧
      (prepare setup (crlf t) {}).2.declaration = (prepare setup t {}).2.declaration ∧
      (prepare setup t {}).2.title = some "A".toList := by
  intro setup t
  have hscripts : segments Script.recognise (protectCoarse t).text =
      segments Script.recognise (protect t).text := by decide +kernel
  exact ⟨hscripts, (declaration_prepare_crlf setup t).2.2 hscripts, by decide +kernel⟩

/-- A fence that does not close in front of a script, and a code span that goes on over a blank
line. -/
theorem declaration_prepare_crlf_differs :
    let setup : Setup := .bare ⟨"doc".toList, "en".toList, homepage⟩
    let fenced := "~~~\nx\n~~~\n\x7b\x7btitle: A\x7d\x7d".toList
    let apart := "\x60a\n\n\x7b\x7btitle: A\x7d\x7d\x60".toList
    ∀ t ∈ [fenced, apart], '\r' ∉ t ∧ edge ∉ t ∧
      (prepare setup t {}).2.title = some "A".toList ∧
      (prepare setup (crlf t) {}).2.title = none := by
  intro setup fenced apart
  simp only [List.forall_mem_cons]
  refine ⟨?_, ?_, fun _ h => absurd h List.not_mem_nil⟩
  · exact ⟨by decide +kernel, by decide +kernel, by decide +kernel, by decide +kernel⟩
  · exact ⟨by decide +kernel, by decide +kernel, by decide +kernel, by decide +kernel⟩

end Conversion
end WikiMarkup
