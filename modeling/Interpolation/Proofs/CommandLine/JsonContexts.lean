import Interpolation.Proofs.CommandLine.Mappings
import Interpolation.Proofs.Json.Newlines
import Interpolation.Proofs.Yaml.Documents

/-!
# Contexts in JSON

A context file may be written in YAML or in JSON, and there is one reader for both, which knows no
JSON.  It reads most JSON objects as what they are, but not all: the exceptions are a matter of how a
document is written, and `Padded.isPlain` names them.  For all other objects the context is what a
reader of JSON finds in the file.

An object without entries counts as false, and is replaced by a new mapping that has none either.

* `Json.Describes.vacant` — the replacement is described by the same object.
* **`World.context_of_json`** — the context in a file that holds an object.
-/

namespace Interpolation

open Config Interpolation.Text

/-- An object without entries describes a new mapping as well. -/
lemma Json.Describes.vacant {es : List (String × Json)} {v : Value} {s : Store}
    (h : (Json.object es).Describes s v.content) (hvacant : v.isVacant s = true) :
    (Json.object es).Describes (Building.dict [] s).2 (Building.dict [] s).1.content := by
  obtain ⟨⟨r, hr⟩, hnil⟩ := isMapping_dict_nil s
  rw [entriesOf, hr] at hnil
  generalize hc : v.content = c at h
  cases h with
  | leaf h => cases h
  | object hes =>
    rw [isVacant_of_isMapping ⟨_, hc⟩, entriesOf, hc, List.isEmpty_iff] at hvacant
    replace hvacant : s.entries _ = [] := hvacant
    replace hnil : Store.entries _ r = [] := hnil
    rw [hvacant] at hes
    cases hes
    rw [hr]
    refine .object ?_
    rw [hnil]
    exact .nil

namespace CommandLine

/-- **The context in a file that holds a JSON object.**  The text of the file is the text of a tree;
and if it is written in a way that a reader of YAML takes for the same, the context is described by
the object: it has the same keys in the same order, and under them values that are the same through
and through. -/
theorem World.context_of_json {w : World} {a : Arguments} {path : String} {bytes : List UInt8}
    {text : List Char} {es : List (String × Json)} (hcontext : a.context = some path)
    (hfile : w.files.read? path = .ok bytes) (hdecode : utf8Decode bytes = .ok text)
    (hread : Json.read? (String.ofList text) = some (.object es))
    (hkeys : (Json.object es).HasDistinctKeys) :
    (∃ d : Json.Padded, d.chars = text) ∧
    ∀ d : Json.Padded, d.chars = text → d.isPlain = true →
      ∃ v s, w.context a = .ok ⟨.held v, s⟩ ∧ (Json.object es).Describes s v.content := by
  refine ⟨?_, fun d hd hplain => ?_⟩
  · obtain ⟨d, hd, -⟩ := Json.exists_padded_of_read? hread
    exact ⟨d, hd.trans (String.toList_ofList)⟩
  subst hd
  have hjson : d.json = .object es := Option.some.inj ((Json.read?_chars d).symm.trans hread)
  -- the line ends of the file are made equal when it is read
  have hjson' : d.newlined.json = .object es := d.json_newlined.trans hjson
  obtain ⟨v, s, hload, hdescribes⟩ :=
    Yaml.load_chars hjson' (d.isPlain_newlined hplain) (hjson' ▸ hkeys)
  rw [hjson'] at hdescribes
  have htext := Command.inWorld_fileText hfile hdecode
  rw [d.newlined_chars] at htext
  have hloaded : w.context a = (readContext d.newlined.chars).mapError (.context path) := by
    show (Command.contextOf a).inWorld w = _
    rw [Command.contextOf, hcontext]
    exact Command.inWorld_fileText_bind htext _
  rw [hloaded, readContext_of_load hload]
  have hmapping : IsMapping v := by
    generalize hc : v.content = c at hdescribes
    cases hdescribes with
    | leaf h => cases h
    | object _ => exact ⟨_, hc⟩
  cases hvacant : v.isVacant s with
  | true => exact ⟨_, _, rfl, hdescribes.vacant hvacant⟩
  | false =>
    refine ⟨v, s, ?_, hdescribes⟩
    rw [if_neg Bool.false_ne_true, if_pos hmapping]
    rfl

/-- A file with an object over two lines, of which the first one ends with two characters. -/
theorem World.context_of_json_lines :
    let text := "\x7b\"n\" : [1, true],\r\n \"t\": \"\\u00e9\"\x7d".toList
    let w : World := ⟨⟨[("c", utf8Encode text)]⟩, [], ""⟩
    ∃ v s, w.context ⟨"t", some "c", none, none, false, "-"⟩ = .ok ⟨.held v, s⟩ ∧
      (Json.object [("n", .array [.int 1, .bool true]), ("t", .str "é")]).Describes s v.content := by
  intro text w
  let glyph (c : Char) (h : 0x20 ≤ c.toNat ∧ c ≠ '"' ∧ c ≠ '\\') : Json.Glyph :=
    .plain c h.1 h.2.1 h.2.2
  let blank (s : List Char) (h : s.all Json.isSpace = true) : Json.Blank :=
    ⟨s, List.all_eq_true.1 h⟩
  let one : Json.Numeral :=
    ⟨false, ⟨['1'], by decide, List.all_eq_true.1 (by decide)⟩, none, none, by decide⟩
  let items : Json.Items :=
    .more (.mk (blank [] (by decide)) (.number one) (blank [] (by decide)))
      (.last (.mk (blank [' '] (by decide)) (.bool true) (blank [] (by decide))))
  let eacute : Json.Glyph := .unit ⟨'0', '0', 'e', '9', 0xe9, by decide⟩ (by decide) (by decide)
  let entries : Json.Entries :=
    .more ⟨blank [] (by decide), [glyph 'n' (by decide)], blank [' '] (by decide)⟩
      (.mk (blank [' '] (by decide)) (.array items) (blank [] (by decide)))
      (.last ⟨blank ['\r', '\n', ' '] (by decide), [glyph 't' (by decide)], blank [] (by decide)⟩
        (.mk (blank [' '] (by decide)) (.text [eacute]) (blank [] (by decide))))
  let d : Json.Padded := .mk (blank [] (by decide)) (.object entries) (blank [] (by decide))
  have hread : Json.read? (String.ofList text) =
      some (.object [("n", .array [.int 1, .bool true]), ("t", .str "é")]) := Json.read?_chars d
  have hdecode : utf8Decode (utf8Encode text) = .ok text := by decide +kernel
  have hkeys : (Json.object [("n", .array [.int 1, .bool true]), ("t", .str "é")]).HasDistinctKeys :=
    ⟨by decide, ⟨trivial, trivial, trivial⟩, trivial, trivial⟩
  exact (World.context_of_json (w := w) rfl (read?_single _) hdecode hread hkeys).2 d rfl rfl

end CommandLine

end Interpolation
