import AiopsTriage.Integrations.ServiceNow
import AiopsTriage.Lib.Segments

/-!
# External ids of Problems

The id of a Problem names the case and the incident twice: joined with colons as they are,
and joined with a bar under a digest. Either join alone can be the same for two pairs, as
both separators may stand inside the names; the two together cannot
(`problemExternalId_injective`).
-/

namespace AiopsTriage

/-- The digest of an external id: the first twelve hexadecimal digits. -/
def shortDigest [Platform] (text : String) : String :=
  String.ofList ((sha256Hex (.utf8 text)).val.toList.take 12)

/-- The text under the digest of a Problem's id. -/
def problemBase (caseId pdIncidentId : String) : String :=
  PyText.join "|" [PyText.strip caseId, PyText.strip pdIncidentId]

/-- The text of an id of a kind. -/
def externalIdText (kind caseId pdIncidentId digest : String) : String :=
  s!"aiops:{kind}:{caseId}:{pdIncidentId}:{digest}"

/-- `build_problem_external_id` with any digest. -/
def buildProblemExternalId (digest : String → String) (caseId pdIncidentId : String) : String :=
  externalIdText "problem" (PyText.strip caseId) (PyText.strip pdIncidentId)
    (digest (problemBase caseId pdIncidentId))

/-- `build_problem_external_id` takes the short digest. -/
theorem externalId_problem [Platform] (caseId pdIncidentId : String) :
    (UpsertKey.problem caseId pdIncidentId).externalId =
      buildProblemExternalId shortDigest caseId pdIncidentId := by
  simp only [UpsertKey.externalId, buildExternalId, buildProblemExternalId, externalIdText,
    shortDigest, problemBase, Option.map_none, Option.filter_none, Option.toList_none,
    List.append_nil]

/-- The characters of an id: its start, the two names, and the digest. -/
theorem toList_buildProblemExternalId (digest : String → String) (caseId pdIncidentId : String) :
    (buildProblemExternalId digest caseId pdIncidentId).toList =
      "aiops:problem:".toList ++ (((PyText.strip caseId).toList ++
        ':' :: (PyText.strip pdIncidentId).toList) ++
          ':' :: (digest (problemBase caseId pdIncidentId)).toList) := by
  have htext : ∀ s : String, toString s = s := fun _ => rfl
  simp [buildProblemExternalId, externalIdText, htext]

/-- The characters under the digest. -/
theorem toList_problemBase (caseId pdIncidentId : String) :
    (problemBase caseId pdIncidentId).toList =
      (PyText.strip caseId).toList ++ '|' :: (PyText.strip pdIncidentId).toList := by
  simp [problemBase, PyText.join]

/-- **External ids of Problems identify the case.** With a digest of fixed length that does not
collide on the two texts it is given, equal ids are of the same case and incident, up to
whitespace around their names. -/
theorem problemExternalId_injective (digest : String → String)
    (hlength : ∀ s t, (digest s).length = (digest t).length)
    (caseId pdIncidentId caseId' pdIncidentId' : String)
    (hcollide : digest (problemBase caseId pdIncidentId) =
        digest (problemBase caseId' pdIncidentId') →
      problemBase caseId pdIncidentId = problemBase caseId' pdIncidentId')
    (h : buildProblemExternalId digest caseId pdIncidentId =
      buildProblemExternalId digest caseId' pdIncidentId') :
    PyText.strip caseId = PyText.strip caseId' ∧
      PyText.strip pdIncidentId = PyText.strip pdIncidentId' := by
  have hchars := congrArg String.toList h
  rw [toList_buildProblemExternalId, toList_buildProblemExternalId] at hchars
  have hparts := List.append_cancel_left hchars
  -- the digests are as long as each other, so the ids fall apart at the same place
  have hsame : (':' :: (digest (problemBase caseId pdIncidentId)).toList).length =
      (':' :: (digest (problemBase caseId' pdIncidentId')).toList).length := by
    rw [List.length_cons, List.length_cons, String.length_toList, String.length_toList,
      hlength (problemBase caseId pdIncidentId)]
  obtain ⟨hcolon, htail⟩ := List.append_inj' hparts hsame
  have hdigest := String.toList_inj.mp (List.cons.inj htail).2
  have hbar := congrArg String.toList (hcollide hdigest)
  rw [toList_problemBase, toList_problemBase] at hbar
  obtain ⟨hcase, hincident⟩ := Segments.append_cons_inj (by decide) hcolon hbar
  exact ⟨String.toList_inj.mp hcase, String.toList_inj.mp hincident⟩

/-- Two spellings of one case and incident. -/
theorem problemExternalId_injective_spaces :
    PyText.strip " case-1" = PyText.strip "case-1" ∧ PyText.strip "pd-1 " = PyText.strip "pd-1" := by
  let digest := fun s : String => if s = "case-1|pd-1" then "0f1e2d3c4b5a" else "000000000000"
  have hlength : ∀ s t, (digest s).length = (digest t).length := by
    intro s t
    have htwelve : ∀ u, (digest u).length = 12 := by
      intro u
      by_cases hu : u = "case-1|pd-1"
      · simp only [digest, if_pos hu]
        decide
      · simp only [digest, if_neg hu]
        decide
    rw [htwelve, htwelve]
  exact problemExternalId_injective digest hlength " case-1" "pd-1 " "case-1" "pd-1" (fun _ => by decide)
    (by decide)

end AiopsTriage
