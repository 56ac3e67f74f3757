import WikiMarkup.Conversion.Link

/-!
# References

A reference is a link in the text of a page: `[[target]]` or `[[target|label]]`. Without a label it
is labelled by its target: by the last part of a page's name, or else by the target without the
words in front of its colons.
-/

namespace WikiMarkup

/-- A reference as it is written between its brackets. -/
structure Reference where
  target : Text
  label : Option Text
deriving DecidableEq, Repr

namespace Reference

/-- Recognises a reference. -/
def recognise : Recogniser Reference := fun _ t =>
  match t with
  | '[' :: '[' :: rest =>
    let target := rest.takeWhile fun c => c != ']' && c != '|'
    if target.isEmpty then none
    else
      match rest.drop target.length with
      | ']' :: ']' :: _ => some (⟨target, none⟩, target.length + 4)
      | '|' :: rest =>
        let label := Text.before ']' rest
        match label, rest.drop label.length with
        | _ :: _, ']' :: ']' :: _ => some (⟨target, some label⟩, target.length + label.length + 5)
        | _, _ => none
      | _ => none
  | _ => none

/-- The beginnings of a target that are an address and no book. -/
def addressStarts : List Text := ["http".toList, "ftp".toList, "mailto".toList]

/-- How many characters in front of a label say where it leads: number signs, and words of lower-case
letters with a colon that begin no address. The text of which the first `skip` characters are
counted already. -/
def labelPrefixFrom : Nat → Text → Nat
  | _, [] => 0
  | skip + 1, _ :: rest => 1 + labelPrefixFrom skip rest
  | 0, c :: rest =>
    let t := c :: rest
    let letters := (t.takeWhile Text.isLowerLetter).length
    if c == '#' then 1 + labelPrefixFrom 0 rest
    else if letters != 0 && (t.drop letters).head? == some ':' &&
        !(addressStarts.any fun start => Text.startsWith start t) then
      1 + labelPrefixFrom letters rest
    else 0

/-- The label of a target that is no page of the wiki. -/
def targetLabel (target : Text) : Text := target.drop (labelPrefixFrom 0 target)

end Reference

namespace Conversion

/-- The HTML of a reference. The page that it leads to is recorded. -/
def reference (setup : Setup) (r : Reference) : Action Text := do
  let target := Text.trim r.target
  let written := r.label.map Text.trim
  let anchor (url attributes label : Text) : Text :=
    "<a href=\"".toList ++ Entity.escape url ++ "\"".toList ++ attributes ++ ">".toList ++
      Entity.escape label ++ "</a>".toList
  match ← resolve setup target with
  | .page ref =>
    let attributes :=
      if ref.lang == setup.page.lang then [] else " lang=\"".toList ++ ref.lang ++ "\"".toList
    let url ← pageUrl setup ref
    return anchor url attributes (written.getD (Text.lastSegment ref.name))
  | .url url =>
    let marked ← Action.look (isMarked · url)
    let attributes := if marked then " rel=\"nofollow\"".toList else []
    return anchor url attributes (written.getD (Reference.targetLabel target))

/-- Replaces every reference of a text by its HTML. -/
def references (setup : Setup) (t : Text) : Action Text :=
  Action.replacePieces (reference setup) (Text.scan Reference.recognise t)

end Conversion
end WikiMarkup
