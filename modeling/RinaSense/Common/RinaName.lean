import RinaSense.Rib.Memory

/-!
# Names of applications

How the name of an application is read from the string the application gives, in
`rina_name.c`, and the names of a flow request.
-/

namespace RinaSense

/-- `strsep` at a bar: the piece in front of it and what is behind it. Without a bar all of
the string is the piece and nothing is left. -/
def strsep : Option (List Char) → Option (List Char) × Option (List Char)
  | none => (none, none)
  | some text =>
      (some (text.takeWhile (· ≠ '|')),
        match text.dropWhile (· ≠ '|') with
        | [] => none
        | _ :: rest => some rest)

/-- A piece as a string; one that is missing is empty. -/
def pieceText (piece : Option (List Char)) : String := String.ofList (piece.getD [])

/-- The name in a string, given memory for the copies of its pieces. -/
def NameInfo.xRinaNameFromString (pcString : Option String) : Option (NameInfo String) :=
  match pcString with
  | none => none
  | some text =>
      let (apn, strc) := strsep (some text.toList)
      let (api, strc) := strsep strc
      let (aen, strc) := strsep strc
      let (aei, _) := strsep strc
      some
        { pcProcessName := pieceText apn
          pcProcessInstance := pieceText api
          pcEntityName := pieceText aen
          pcEntityInstance := pieceText aei }

/-- The names in `flowAllocateHandle_t`. -/
structure RequestNames where
  pxDifName : NameInfo String
  pxLocal : NameInfo String
  pxRemote : NameInfo String
  deriving Repr, DecidableEq

/-- The names `prvRINACreateFlowRequest` puts into a request, given memory. All three have
to be there. -/
def requestNames (pcNameDif pcLocalApp pcRemoteApp : Option String) : Option RequestNames := do
  let pxDifName ← NameInfo.xRinaNameFromString pcNameDif
  let pxLocal ← NameInfo.xRinaNameFromString pcLocalApp
  let pxRemote ← NameInfo.xRinaNameFromString pcRemoteApp
  return { pxDifName, pxLocal, pxRemote }

end RinaSense
