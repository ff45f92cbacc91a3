import FilterQuery.Proofs.Query.Faults
import FilterQuery.Proofs.Sql.Resolution

/-!
# Failures of requests are the client's

Whatever a client sends, a failure is about what was sent: the parameters are
malformed, or the allow-list denies them.  Once a mapping was built, the
failures of the server cannot occur.
-/

namespace FilterQuery.Sql.Fragment

/-- A denial has the code of one. -/
theorem isDenied_of_denial (denial : Denial) :
    denial.failure.code.isDenied = true := by
  cases denial <;> simp only [Denial.failure, Denial.ofFilter] <;> decide

/-- A fragment is only refused by the allow-list. -/
theorem exists_denial_of_ofQuery
    {declaration : Declaration} {mapping : Mapping}
    (passed : Declaration.Passed declaration mapping)
    {query : Query} (parsed : query.Parsed) {dialect : Dialect} {fault : Fault}
    (failed : ofQuery dialect mapping query = .error fault) :
    ∃ denial,
      mapping.validate query = .error denial ∧ fault = .denied denial := by
  cases outcome : mapping.validate query with
  | ok _ =>
      obtain ⟨fragment, done⟩ :=
        exists_ofQuery_eq_ok passed parsed outcome dialect
      rw [done] at failed
      cases failed
  | error denial =>
      refine ⟨denial, rfl, ?_⟩
      simp only [ofQuery, outcome, Outcome.mapError_error, bind, Except.bind]
        at failed
      cases failed
      rfl

/-- No request makes a mapping fail by the server's fault: a failure to read
the query has one of the codes for malformed input, and a failure to write the
conditions has one of the codes for input that is denied. -/
theorem failures_are_clients
    {declaration : Declaration} {mapping : Mapping}
    (built : declaration.build = .ok mapping)
    (dialect : Dialect) (pairs : List (String × String)) :
    (∀ fault,
      Query.parse (.ofPairs pairs) = .error fault →
        fault.failure.code.text ∈
          ["Q1001", "Q1002", "Q1003", "Q1004", "Q1005"]) ∧
      ∀ query fault,
        Query.parse (.ofPairs pairs) = .ok query →
        ofQuery dialect mapping query = .error fault →
          fault.failure.code.text ∈
            ["Q2001", "Q2002", "Q2003", "Q2004", "Q2005"] := by
  constructor
  · intro fault failed
    exact Code.isMalformed_iff_mem_text.mp (Query.isMalformed_of_parse failed)
  · intro query fault parsed failed
    obtain ⟨denial, _, same⟩ :=
      exists_denial_of_ofQuery (Declaration.passed_of_build built)
        (Query.parsed_of_parse parsed) failed
    rw [same]
    exact Code.isDenied_iff_mem_text.mp (isDenied_of_denial denial)

/-- Parameters with an index that is too large, and parameters that are denied. -/
theorem failures_are_clients_ages :
    ∃ mapping,
      Mapping.agesDeclaration.build = .ok mapping ∧
        (∃ fault,
          Query.parse (.ofPairs [("filter[18446744073709551616]", "age=1")]) =
              .error fault ∧
            fault.failure.code.text ∈
              ["Q1001", "Q1002", "Q1003", "Q1004", "Q1005"]) ∧
        ∃ query fault,
          Query.parse (.ofPairs [("filter[]", "age<99")]) = .ok query ∧
            ofQuery .mySql mapping query = .error fault ∧
            fault.failure.code.text ∈
              ["Q2001", "Q2002", "Q2003", "Q2004", "Q2005"] := by
  have builds : Mapping.agesDeclaration.build.toOption.isSome = true := by
    decide +kernel
  have parses :
      (Query.parse (.ofPairs [("filter[]", "age<99")])).toOption.isSome =
        true := by
    decide +kernel
  have tooLarge :
      (Query.parse
          (.ofPairs [("filter[18446744073709551616]", "age=1")])).toOption.isNone =
        true := by
    decide +kernel
  have denies :
      (Mapping.agesDeclaration.build.toOption.bind fun mapping =>
          (Query.parse (.ofPairs [("filter[]", "age<99")])).toOption.bind
            fun query => (ofQuery .mySql mapping query).toOption).isNone =
        true := by
    decide +kernel
  obtain ⟨mapping, built⟩ := Outcome.exists_eq_ok_of_isSome builds
  obtain ⟨query, parsed⟩ := Outcome.exists_eq_ok_of_isSome parses
  obtain ⟨malformed, malformedFails⟩ :=
    Outcome.exists_eq_error_of_isNone tooLarge
  rw [built, parsed] at denies
  obtain ⟨denied, deniedFails⟩ := Outcome.exists_eq_error_of_isNone denies
  refine
    ⟨mapping, built, ⟨malformed, malformedFails, ?_⟩,
      ⟨query, denied, parsed, deniedFails, ?_⟩⟩
  · exact (failures_are_clients built .mySql _).1 malformed malformedFails
  · exact
      (failures_are_clients built .mySql _).2 query denied parsed deniedFails

end FilterQuery.Sql.Fragment
