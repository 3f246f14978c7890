import Mathlib.Data.List.Forall2
import Scripting.Proofs.Dialect.Keyword

/-!
# Rows of a text whose imports are written out

Diagnostics and traces name rows of the text that the engine reads.  In the `imports` style that is
the gathered text with its import lines written out.

* `holding`         what a new environment of some style gathers from imports and a body;
* `text_holding`    its text is the header of the imports, the last one first, and the body;
* `rows_expanded`   every row of a written text is made of the same row of the gathered one, and
                    the rows of its header are those that the other style puts there.
-/

namespace Scripting.Dialect.Scripted

open Environment (headerOf)
open Script.Import
open Text (EndsLine chunks)

section
variable (d : Scripted) (style : Style) (flags : Flags) (imports : List String) (body : String)

/-- a new environment behind imports, one after the other, and a body -/
def holding : Environment :=
  ({ language := (d.styled style).language, flags } : Environment).after
    (imports.map Command.addImport ++ [.setSource body])

theorem language_holding :
    (d.holding style flags imports body).language = (d.styled style).language :=
  congrArg Prod.fst (Environment.fixed_after _ _)

theorem imports_holding : (d.holding style flags imports body).imports = imports := by
  have gathered (e : Environment) :
      (e.after (imports.map Command.addImport ++ [.setSource body])).imports =
        e.imports ++ imports := by
    induction imports generalizing e with
    | nil => exact (List.append_nil e.imports).symm
    | cons s imports ih =>
      rw [List.map_cons, List.cons_append, Environment.after_cons, ih]
      exact List.append_assoc ..
  exact gathered _

theorem header_holding : (d.holding style flags imports body).header =
    headerOf (d.styled style).language imports := by
  have regular : (d.holding style flags imports body).Regular :=
    (Environment.regular_new _ flags).after _
  rw [regular, language_holding, imports_holding]

theorem text_holding : (d.holding style flags imports body).text =
    headerOf (d.styled style).language imports ++ body := by
  have behind : (d.holding style flags imports body).body = body := by
    unfold holding Environment.after
    rw [List.foldl_append]
    rfl
  rw [Environment.text, header_holding, behind]

end

/-- **Rows.**  The text that the engine reads in the `imports` style has a row for every row of the
gathered text, with the same line ends, and it is the statement of what that row imports, or that
row itself.  So texts are written out line by line, and once.  What imports of words put before a
body becomes what they put there in the other style. -/
theorem rows_expanded (d : Scripted) :
    let k := d.styled .keyword
    (∀ s : String, chunks (k.expanded s).toList = (chunks s.toList).map expandLine ∧
      List.Forall₂ Expanded (chunks s.toList) (chunks (k.expanded s).toList)) ∧
    (∀ a b : String, EndsLine a.toList →
      k.expanded (a ++ b) = k.expanded a ++ k.expanded b) ∧
    (∀ s : String, k.expanded (k.expanded s) = k.expanded s) ∧
    ∀ (flags : Flags) (imports : List String) (body : String),
      (∀ s ∈ imports, IsWord s.toList) →
        k.expanded (d.holding .keyword flags imports body).text =
          (d.holding .plain flags imports body).header ++ k.expanded body := by
  intro k
  have chunks_eq (s : String) :
      chunks (k.expanded s).toList = (chunks s.toList).map expandLine := by
    change chunks (written s).toList = _
    rw [written, String.toList_ofList, chunks_expand]
  refine ⟨fun s => ⟨chunks_eq s, ?_⟩, fun a b h => written_append h b, fun s => ?_,
    fun flags imports body words => ?_⟩
  · rw [chunks_eq, List.forall₂_map_right_iff]
    exact List.forall₂_same.mpr fun line _ => expandLine_spec line
  · change written (written s) = written s
    rw [written, written, String.toList_ofList, expand_expand]
  · rw [text_holding, header_holding]
    exact written_headerOf d words body

/-- lines that end in every way but one -/
def mixed : String := "imports A\r\n\u00a0imports My.Tools\t\r\r\nlet imports = 1;\n  imports  \n"

/-- a line without an end -/
def unended : String := "imports B "

theorem rows_expanded_mixed :
    let d : Scripted := { engine := Engine.standard {} }
    let k := d.styled .keyword
    EndsLine mixed.toList ∧ (∀ s ∈ ["Forms", "System:Text"], IsWord s.toList) ∧
      k.expanded (mixed ++ unended) = k.expanded mixed ++ k.expanded unended ∧
      k.expanded (d.holding .keyword .standard ["Forms", "System:Text"] mixed).text =
        (d.holding .plain .standard ["Forms", "System:Text"] mixed).header ++ k.expanded mixed ∧
      k.expanded mixed = "import \"A\" as A;\r\nimport \"My.Tools\" as Tools;\r\r\n" ++
        "let imports = 1;\n  imports  \n" ∧
      k.expanded unended = "import \"B\" as B;" := by
  intro d k
  have ends : EndsLine mixed.toList := by decide +kernel
  have words : ∀ s ∈ ["Forms", "System:Text"], IsWord s.toList := by decide +kernel
  obtain ⟨-, append, -, header⟩ := rows_expanded d
  exact ⟨ends, words, append mixed unended ends, header .standard _ mixed words,
    by decide +kernel, by decide +kernel⟩

end Scripting.Dialect.Scripted
