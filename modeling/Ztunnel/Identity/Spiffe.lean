import Ztunnel.Rbac.Policy

/-!
# SPIFFE identities as text

`identity/manager.rs`: an identity is written `spiffe://<trust domain>/ns/<namespace>/sa/<service
account>`, and read by splitting at every slash. The parts of an identity are any texts, so one of
them may have a slash itself; then the text splits into more than five pieces and is refused. So a
text is read as an identity iff it is what the identity is written as and no part has a slash
(`fromStr_eq_ok`), and what is written is never read as another identity.
-/

namespace Ztunnel.Rbac.Identity

/-- `Error::Spiffe`, with the text that is no identity. -/
inductive ParseError where
  | spiffe (text : String)
deriving DecidableEq, Repr

def uriScheme : String := "spiffe://"

/-- `Identity::from_str`. -/
def fromStr (s : String) : Except ParseError Identity :=
  if s.toList.take uriScheme.length ≠ uriScheme.toList then .error (.spiffe s)
  else
    match ((s.toList.drop uriScheme.length).splitOn '/').map String.ofList with
    | [trustDomain, ns, «namespace», sa, serviceAccount] =>
      if ns ≠ "ns" ∨ sa ≠ "sa" then .error (.spiffe s)
      else .ok ⟨trustDomain, «namespace», serviceAccount⟩
    | _ => .error (.spiffe s)

/-- `Display` of `Identity`, and `Identity::to_strng`. -/
def fmt (id : Identity) : String :=
  "spiffe://" ++ id.trustDomain ++ "/ns/" ++ id.namespace ++ "/sa/" ++ id.serviceAccount

/-- No part of the identity has a slash. -/
structure Slashless (id : Identity) : Prop where
  trustDomain : '/' ∉ id.trustDomain.toList
  «namespace» : '/' ∉ id.namespace.toList
  serviceAccount : '/' ∉ id.serviceAccount.toList

/-! ### The pieces of a text -/

/-- The five pieces of an identity. -/
def pieces (id : Identity) : List String :=
  [id.trustDomain, "ns", id.namespace, "sa", id.serviceAccount]

/-- What is written for an identity is its pieces, with slashes between them. -/
theorem toList_fmt (id : Identity) :
    id.fmt.toList = uriScheme.toList ++ ['/'].intercalate (id.pieces.map String.toList) := by
  have hns : "/ns/".toList = ['/'] ++ "ns".toList ++ ['/'] := by decide
  have hsa : "/sa/".toList = ['/'] ++ "sa".toList ++ ['/'] := by decide
  simp [fmt, pieces, uriScheme, String.toList_append, hns, hsa, List.intercalate_cons_cons]

/-- What is read from a text depends on its pieces. -/
theorem fromStr_eq_ok_iff_splitOn {s : String} {id : Identity} :
    fromStr s = .ok id ↔
      ∃ rest, s.toList = uriScheme.toList ++ rest ∧
        rest.splitOn '/' = id.pieces.map String.toList := by
  constructor
  · intro h
    unfold fromStr at h
    split at h
    · cases h
    · next hscheme =>
      refine ⟨s.toList.drop uriScheme.length, ?_, ?_⟩
      · rw [← not_not.1 hscheme, List.take_append_drop]
      · split at h
        · next hpieces =>
          split at h
          · cases h
          · next hkeys =>
            cases h
            obtain ⟨rfl, rfl⟩ := not_or.1 hkeys |>.imp not_not.1 not_not.1
            rw [pieces, ← hpieces, List.map_map]
            exact (List.map_id'' (fun _ ↦ String.toList_ofList) _).symm
        · cases h
  · rintro ⟨rest, hs, hrest⟩
    have htake : s.toList.take uriScheme.length = uriScheme.toList := by
      rw [hs]
      exact List.take_left' String.length_toList
    have hdrop : s.toList.drop uriScheme.length = rest := by
      rw [hs]
      exact List.drop_left' String.length_toList
    have hpieces :
        ((s.toList.drop uriScheme.length).splitOn '/').map String.ofList = id.pieces := by
      rw [hdrop, hrest, List.map_map]
      exact List.map_id'' (fun _ ↦ String.ofList_toList) _
    rw [fromStr, if_neg (not_not.2 htake), hpieces]
    rfl

/-- No piece of a split has the character that was split at. -/
theorem notMem_of_mem_splitOn {c : Char} {text piece : List Char}
    (h : piece ∈ text.splitOn c) : c ∉ piece := by
  induction text generalizing piece with
  | nil =>
    rw [List.splitOn_nil, List.mem_singleton] at h
    rw [h]
    exact List.not_mem_nil
  | cons d text ih =>
    rw [List.splitOn_cons_eq_if_modifyHead] at h
    split at h
    · obtain rfl | h := List.mem_cons.1 h
      · exact List.not_mem_nil
      · exact ih h
    · next hd =>
      cases hsplit : text.splitOn c with
      | nil => exact absurd hsplit (List.splitOn_ne_nil c text)
      | cons first others =>
        rw [hsplit] at h ih
        obtain rfl | h := List.mem_cons.1 h
        · intro hmem
          obtain rfl | hmem := List.mem_cons.1 hmem
          · exact hd (beq_self_eq_true c)
          · exact ih List.mem_cons_self hmem
        · exact ih (List.mem_cons_of_mem _ h)

theorem slashless_iff_pieces {id : Identity} :
    id.Slashless ↔ ∀ piece ∈ id.pieces.map String.toList, '/' ∉ piece := by
  simp only [pieces, List.map_cons, List.map_nil, List.forall_mem_cons]
  constructor
  · rintro ⟨htd, hns, hsa⟩
    exact ⟨htd, by decide, hns, by decide, hsa, fun _ h ↦ absurd h List.not_mem_nil⟩
  · rintro ⟨htd, -, hns, -, hsa, -⟩
    exact ⟨htd, hns, hsa⟩

/-! ### Reading and writing -/

/-- **Reading inverts writing**, on the identities without slashes. -/
theorem fromStr_eq_ok {s : String} {id : Identity} :
    fromStr s = .ok id ↔ id.fmt = s ∧ id.Slashless := by
  rw [fromStr_eq_ok_iff_splitOn]
  constructor
  · rintro ⟨rest, hs, hrest⟩
    refine ⟨String.toList_inj.1 ?_, slashless_iff_pieces.2 ?_⟩
    · rw [toList_fmt, ← hrest, List.intercalate_splitOn, hs]
    · rw [← hrest]
      exact fun piece hpiece ↦ notMem_of_mem_splitOn hpiece
  · rintro ⟨rfl, hslashless⟩
    exact ⟨_, toList_fmt id, List.splitOn_intercalate '/' (slashless_iff_pieces.1 hslashless)
      (List.cons_ne_nil _ _)⟩

/-- What is written has the two slashes of the scheme, four between the pieces and those of the
parts. -/
theorem count_slash_fmt (id : Identity) :
    id.fmt.toList.count '/' = 6 + (id.trustDomain.toList.count '/' +
      id.namespace.toList.count '/' + id.serviceAccount.toList.count '/') := by
  have hscheme : "spiffe://".toList.count '/' = 2 := by decide
  have hns : "/ns/".toList.count '/' = 2 := by decide
  have hsa : "/sa/".toList.count '/' = 2 := by decide
  simp only [fmt, String.toList_append, List.count_append, hscheme, hns, hsa]
  omega

/-- The slashes of the parts can be told from the text. -/
theorem Slashless.of_fmt_eq {id id' : Identity} (hid : id.Slashless) (h : id.fmt = id'.fmt) :
    id'.Slashless := by
  have htd := List.count_eq_zero.2 hid.trustDomain
  have hns := List.count_eq_zero.2 hid.namespace
  have hsa := List.count_eq_zero.2 hid.serviceAccount
  have hcount := congrArg (·.toList.count '/') h
  simp only [count_slash_fmt] at hcount
  exact ⟨List.count_eq_zero.1 (by omega), List.count_eq_zero.1 (by omega),
    List.count_eq_zero.1 (by omega)⟩

/-- **The encoding of identities**: an accepted text is what its identity is written as; what is
written for an identity is accepted iff no part has a slash, and is read as that identity only. -/
theorem spiffe_encoding :
    (∀ s id, fromStr s = .ok id → id.fmt = s) ∧
    (∀ id : Identity, (∃ id', fromStr id.fmt = .ok id') ↔ id.Slashless) ∧
    (∀ id id' : Identity, fromStr id.fmt = .ok id' → id' = id) := by
  have hslashless : ∀ id id' : Identity, fromStr id.fmt = .ok id' → id.Slashless := by
    intro id id' h
    obtain ⟨hfmt, hid'⟩ := fromStr_eq_ok.1 h
    exact hid'.of_fmt_eq hfmt
  refine ⟨?_, ?_, ?_⟩
  · intro s id h
    exact (fromStr_eq_ok.1 h).1
  · intro id
    constructor
    · rintro ⟨id', h⟩
      exact hslashless id id' h
    · intro hid
      exact ⟨id, fromStr_eq_ok.2 ⟨rfl, hid⟩⟩
  · intro id id' h
    have hid : fromStr id.fmt = .ok id := fromStr_eq_ok.2 ⟨rfl, hslashless id id' h⟩
    exact Except.ok.inj (h.symm.trans hid)

end Ztunnel.Rbac.Identity
