import SqlLens.Proofs.Sql.Name
import SqlLens.Render.Basic

namespace SqlLens.Sql.Lexer

variable {d : Dialect} {t : Token} {text : String} {cs rest : List Char} {p : Position} {n : Nat}

-- The text is read as one token, and `rest` behind it by itself, whatever was read before.
def ReadsAs (d : Dialect) (text : String) (t : Token) (rest : List Char) : Prop :=
  ∀ n prev gap p, lexFrom d (n + 1) prev gap p (text.toList ++ rest) =
    (⟨t, p, gap⟩ :: ·) <$> lexFrom d n (some t) none (advance p text.length text.toList) rest

theorem advance_append (h : n ≤ cs.length) : advance p n (cs ++ rest) = advance p n cs := by
  induction n generalizing p cs
  case zero => simp [advance]
  case succ n hi =>
    cases cs
    case nil => simp at h
    case cons c cs => exact hi (by simpa using h)

theorem Scans.readsAs (h : Scans d text.toList t rest) : ReadsAs d text t rest := by
  intro n prev gap p
  obtain ⟨c, cs, e, scanned⟩ := h
  have length : text.length = cs.length + 1 := by rw [← String.length_toList, e, List.length_cons]
  have taken : (cs ++ rest).length + 1 - rest.length = text.length := by
    rw [List.length_append, length]
    omega
  have short : text.length ≤ (c :: cs).length := by rw [length, List.length_cons]
  have behind : advance p text.length (c :: (cs ++ rest)) = advance p text.length (c :: cs) :=
    advance_append short
  simp only [e, List.cons_append, lexFrom, scanned, taken, behind]
  rfl

-- Every string can be written as a name and as a literal, and is read back from both.
theorem spelling_read_back (s : String) (hr : EndsWord rest) :
    (∃ id : Ident, ∃ keyword, id.folded = s ∧
      ReadsAs .postgresql (Render.quoteIdent s) (.word id.text keyword id.quote) rest) ∧
    ReadsAs .postgresql (Render.const (.string s)) (.string .single s) rest := by
  obtain ⟨id, keyword, word, folded⟩ := exists_ident s
  have name : Scans .postgresql (Render.quoteIdent s).toList (nameToken s) rest :=
    scans_quoteIdent (.inr rfl) hr s
  have literal : Scans .postgresql (Render.quoteString s).toList (.string .single s) rest :=
    scans_quoteString rfl hr s
  exact ⟨⟨id, keyword, folded, (word ▸ name).readsAs⟩, literal.readsAs⟩

-- Both quotes in one string, at its ends and in a row, and a capital with a long lower case.
theorem spelling_read_back_quotes :
    let s := "\x22it''s İ\x27"
    EndsWord [')'] ∧
    (∃ id : Ident, ∃ keyword, id.folded = s ∧
      ReadsAs .postgresql "\x22\x22\x22it''s İ'\x22" (.word id.text keyword id.quote) [')']) ∧
    ReadsAs .postgresql "'\x22it''''s İ'''" (.string .single s) [')'] := by
  intro s
  have ends : EndsWord [')'] := by simp [EndsWord]
  have name : Render.quoteIdent s = "\x22\x22\x22it''s İ'\x22" := by decide +kernel
  have literal : Render.const (.string s) = "'\x22it''''s İ'''" := by decide +kernel
  rw [← name, ← literal]
  exact ⟨ends, spelling_read_back s ends⟩

end SqlLens.Sql.Lexer
