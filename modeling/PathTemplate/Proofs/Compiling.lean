import PathTemplate.Proofs.RoundTrip
/-!
# Templates and their groups

Only its own text can make a template fail: a template that can be split into tokens is compiled,
whatever characters its text, its markers and its names are made of, and under all flags. The groups
of what it is compiled to are then its names, each at the place of its first occurrence.
-/

namespace PathTemplate

namespace Token

theorem firstIdx_cons_self (name : String) (optional : Bool) (tokens : List Token) :
    firstIdx (placeholder name optional :: tokens) name = 0 := by
  simp [firstIdx, List.findIdx_cons, name?]

theorem firstIdx_cons_of_ne {t : Token} {name : String} (h : t.name? ≠ some name)
    (tokens : List Token) : firstIdx (t :: tokens) name = firstIdx tokens name + 1 := by
  simp [firstIdx, List.findIdx_cons, h]

/-- Names that are no name of the first token come in the same order in the others. -/
theorem Pairwise.firstIdx_cons {t : Token} {tokens : List Token} {names : List String}
    (h : names.Pairwise fun x y => firstIdx tokens x < firstIdx tokens y)
    (hn : ∀ name ∈ names, t.name? ≠ some name) :
    names.Pairwise fun x y => firstIdx (t :: tokens) x < firstIdx (t :: tokens) y := by
  refine h.imp_of_mem fun hx hy hxy => ?_
  rw [firstIdx_cons_of_ne (hn _ hx), firstIdx_cons_of_ne (hn _ hy)]
  exact Nat.succ_lt_succ hxy

theorem pairwise_newNames (tokens : List Token) : ∀ bound : List String,
    (newNames bound tokens).Pairwise fun x y => firstIdx tokens x < firstIdx tokens y := by
  induction tokens with
  | nil => intro _; exact .nil
  | cons t tokens ih =>
    intro bound
    cases t with
    | placeholder name optional =>
      have hne : ∀ names, name ∈ names → ∀ y ∈ newNames names tokens,
          (placeholder name optional).name? ≠ some y := by
        rintro names hm y hy ⟨⟩
        exact not_mem_of_mem_newNames tokens hy hm
      unfold newNames
      split
      · next hb => exact Pairwise.firstIdx_cons (ih bound) (hne bound hb)
      · have hn := hne (bound ++ [name]) (by simp)
        refine .cons (fun y hy => ?_) (Pairwise.firstIdx_cons (ih _) hn)
        rw [firstIdx_cons_self, firstIdx_cons_of_ne (hn y hy)]
        exact Nat.succ_pos _
    | _ =>
      refine Pairwise.firstIdx_cons (ih bound) ?_
      rintro _ _ ⟨⟩

/-- Names are listed in the order in which they first occur. -/
theorem pairwise_names (tokens : List Token) :
    (names tokens).Pairwise fun x y => firstIdx tokens x < firstIdx tokens y := by
  rw [names_eq_newNames]
  exact pairwise_newNames tokens []

end Token

namespace Source

variable {o : Options} {tokens : List Token}

/-- The source of a template is compiled wherever a few levels of nesting are allowed and no size is
too large. -/
theorem compile?_eq_some (ho : o.fault? = none) (hd : o.defaultExpression = none)
    (hn : ∀ t ∈ tokens, ∀ name ∈ t.name?, Token.validName name = true) {limits : Regex.Limits}
    (hl : 8 ≤ limits.depth) (hw : limits.weight = none) :
    Regex.compile? limits (ofTokens o [] tokens) = some ⟨ofTokens o [] tokens, tree o tokens⟩ := by
  have hdepth := Nat.le_trans (depth_expr_le o tokens) hl
  rw [compile?_ofTokens ho hd hn, if_pos ⟨hdepth, by rw [hw]; rfl⟩]

end Source

/-- What tokens are compiled to where no placeholder has an expression of its own. -/
def CompiledTemplate.ofTokens (o : Options) (tokens : List Token) : CompiledTemplate where
  regex := ⟨Source.ofTokens o [] tokens, Source.tree o tokens⟩
  names := Token.names tokens

theorem Anew.compile_eq_ofTokens {o : Options} (ho : o.fault? = none)
    (hd : o.defaultExpression = none) {template : String} {tokens : List Token}
    (ht : Token.ofTemplate o template = .ok tokens) :
    compile { weight := none } o template [] = .ok (.ofTokens o tokens) :=
  compile_eq_ok.2 ⟨tokens, ht, rfl,
    Source.compile?_eq_some ho hd (Token.validName_of_ofTemplate ho ht) (by decide) rfl⟩

namespace Builder

/-- At any time a builder without an expression of its own for placeholders compiles every template
that can be split into tokens, and gives no error but that of the text for the others. What it gives
has one group for each name and no others, in the order in which the names first occur. Eight levels
of nesting are enough for this. -/
theorem compile_groups_eq_names {b : Builder} (hb : b.IsFaithful) (ho : b.options.fault? = none)
    (hd : b.options.defaultExpression = none) (hl : 8 ≤ b.limits.depth)
    (hw : b.limits.weight = none) (stamp : Nat) (template : String) :
    (∃ e, Token.ofTemplate b.options template = .error e ∧
        (b.compile stamp template []).result = .error (.template e)) ∨
      ∃ tokens t, Token.ofTemplate b.options template = .ok tokens ∧
        (b.compile stamp template []).result = .ok t ∧
        t.names = Token.names tokens ∧
        t.regex.groupCount = t.names.length + 1 ∧
        t.regex.groupNames = t.names.map some ∧
        t.names.Nodup ∧
        (∀ name, name ∈ t.names ↔ ∃ optional, .placeholder name optional ∈ tokens) ∧
        t.names.Pairwise fun x y => Token.firstIdx tokens x < Token.firstIdx tokens y := by
  rw [result_compile hb, Anew.compile, Anew.tokens]
  cases ht : Token.ofTemplate b.options template with
  | error e => exact .inl ⟨e, rfl, rfl⟩
  | ok tokens =>
    have hc := Source.compile?_eq_some ho hd (Token.validName_of_ofTemplate ho ht) hl hw
    have hg : Regex.groupNames ⟨Source.ofTokens b.options [] tokens,
        Source.tree b.options tokens⟩ = (Token.names tokens).map some :=
      Regex.groupNames_of_tree rfl
    refine .inr ⟨tokens, ⟨_, Token.names tokens⟩, rfl, ?_, rfl, ?_, hg, Token.nodup_names tokens,
      fun name => Token.mem_names_iff_exists, Token.pairwise_names tokens⟩
    · have hr := Anew.regex_eq_ok.2 hc
      change (Anew.regex b.limits (Source.ofTokens b.options [] tokens)).bind _ = _
      rw [hr]
      rfl
    · rw [Regex.groupCount, hg, List.length_map]

/-- A builder whose separator and literal text have a meaning of their own in expressions. -/
def dotted : Builder where
  options := { separator := '.', flags := "imU" }
  limits := { weight := none }

/-- A name that is written three times is one group, though it is optional at first. -/
theorem compile_groups_eq_names_repeated :
    ∃ t, (dotted.compile 0 "(\x7bb?\x7d.\x7ba\x7d|[\x7bb\x7d^.\x7bb?\x7d" []).result = .ok t ∧
      t.names = ["b", "a"] ∧ t.regex.groupNames = [some "b", some "a"] := by
  have hb : dotted.IsFaithful := ⟨nofun, nofun⟩
  rcases compile_groups_eq_names hb (by decide) rfl (by decide) rfl 0
      "(\x7bb?\x7d.\x7ba\x7d|[\x7bb\x7d^.\x7bb?\x7d" with
    ⟨e, he, -⟩ | ⟨tokens, t, ht, hc, hn, -, hg, -⟩
  · cases he
  · cases ht
    have hn : t.names = ["b", "a"] := hn
    exact ⟨t, hc, hn, by rw [hg, hn]; rfl⟩

end Builder

end PathTemplate
