import WikiMarkup.Proofs.Code.Block
import WikiMarkup.Proofs.Conversion.Declaration

/-!
# Code that a page shows

The passes over the text of a page see marks where its code stands, so what stands inside a fenced
block has no part in what they do: the same commands are run and the same tokens resolved, whatever
the lines of the block are.
-/

namespace WikiMarkup
namespace Conversion

open Shield Text

/-- What the passes over a text do depends on the text with its code put aside. -/
theorem prepare_congr {t t' : Text} (h : (protect t').text = (protect t).text) (setup : Setup)
    (s : State) : (prepare setup t' s).2 = (prepare setup t s).2 := by
  rw [prepare_eq, prepare_eq, h]

/-- A block that is put aside has a reading by lines, and other lines inside it, as long as none closes
the block, leave the text around it as it is, with the same marks: the block is all that differs in the
code that is put aside. So the same commands are run, the same tokens are resolved, and the conversion
comes to the same state. -/
theorem prepare_withBody {front block back : Text} (h : PutsAside front block back) :
    (∃ b : Fence.Block, b.text = block) ∧
      ∀ b : Fence.Block, b.text = block →
        ∀ body (inside : ∀ line ∈ body, b.fence.IsInside line),
          let t := front ++ (block ++ back)
          let t' := front ++ ((b.withBody body inside).text ++ back)
          (protect t').text = (protect t).text ∧
            (∃ before after, (protect t).saved = before ++ block :: after ∧
              (protect t').saved = before ++ (b.withBody body inside).text :: after) ∧
            ∀ setup s,
              performed setup (protect t').text = performed setup (protect t).text ∧
                asked setup (protect t').text = asked setup (protect t).text ∧
                (prepare setup t' s).2 = (prepare setup t s).2 := by
  obtain ⟨b, pieces, more, rfl, hscan⟩ := h.scan_withBody
  refine ⟨⟨b, rfl⟩, fun b' hb' body inside => ?_⟩
  obtain rfl := Fence.Block.text_injective hb'
  -- the block itself is the one with its own lines inside
  have hown := hscan b'.body b'.inside
  obtain ⟨htext, hsaved⟩ := protect_found_congr hown (hscan body inside)
  refine ⟨htext, hsaved, fun setup s => ⟨?_, ?_, prepare_congr htext setup s⟩⟩
  · exact congrArg (performed setup) htext
  · exact congrArg (asked setup) htext

/-- A block between two code spans with a script in it, and then with lines in its place that look like
a fence of the other kind, the beginning of a code span and a reference. -/
theorem prepare_withBody_script :
    let block (body : List Text) : Text :=
      "\x60\x60\x60".toList ++ feedLines (body ++ ["\x60\x60\x60".toList])
    let page (body : List Text) : Text := "\x60a\x60\n".toList ++ (block body ++ "\n\x60b\x60".toList)
    let script : List Text := ["\x7b\x7btitle: A\x7d\x7d".toList]
    let other : List Text := ["~~~".toList, "\x60\x60".toList, "[[b]]".toList]
    PutsAside "\x60a\x60\n".toList (block script) "\n\x60b\x60".toList ∧
      (protect (page script)).text = "\x00CODE1\x00\n\x00CODE0\x00\n\x00CODE2\x00".toList ∧
      (protect (page other)).text = (protect (page script)).text ∧
      ∀ setup s, (prepare setup (page other) s).2 = (prepare setup (page script) s).2 := by
  intro block page script other
  have hscan : scan Fence.recognise (page script) =
      "\x60a\x60\n".toList.map .plain ++ .found (block script) :: "\n\x60b\x60".toList.map .plain := by
    decide
  have hputs : PutsAside "\x60a\x60\n".toList (block script) "\n\x60b\x60".toList :=
    ⟨_, _, hscan, rfl⟩
  let b : Fence.Block :=
    { fence := ⟨'\x60', 3⟩
      opening := "\x60\x60\x60".toList
      body := script
      closing := some "\x60\x60\x60".toList
      opens := by decide
      line := by decide
      inside := by decide
      closes := by decide }
  obtain ⟨htext, -, hstate⟩ := (prepare_withBody hputs).2 b rfl other (by decide)
  exact ⟨hputs, by decide, htext, fun setup s => (hstate setup s).2.2⟩

end Conversion
end WikiMarkup
