import CheckedCurry.Capability.Dispatch
import CheckedCurry.Fault.Phrase
import CheckedCurry.Log.Attached
import CheckedCurry.Log.Percent
import CheckedCurry.Log.Plain
import CheckedCurry.Package
import CheckedCurry.Run.Family
import CheckedCurry.Settings
import CheckedCurry.Value.Identity
import CheckedCurry.WriteOnce
import CheckedCurry.Proofs.Curried.Filling
import CheckedCurry.Proofs.Run.Calls
import CheckedCurry.Proofs.Curried.Accounting
import CheckedCurry.Proofs.Curried.Grouping
import CheckedCurry.Proofs.Signature.Faults
import CheckedCurry.Proofs.Curried.Transparency
import CheckedCurry.Proofs.Ty.Fitting
import CheckedCurry.Proofs.Signature.Coherence
import CheckedCurry.Proofs.Curried.Admission
import CheckedCurry.Proofs.Ty.Columns
import CheckedCurry.Proofs.Signature.Columns
import CheckedCurry.Proofs.Signature.Markers
import CheckedCurry.Proofs.Ty.Reach
import CheckedCurry.Proofs.Curried.Rejection
import CheckedCurry.Proofs.Standard.Soundness
import CheckedCurry.Proofs.Signature.Verdict
import CheckedCurry.Proofs.Run.Lockstep
import CheckedCurry.Proofs.Curried.Wording
import CheckedCurry.Proofs.Ty.Renaming
import CheckedCurry.Proofs.Signature.Renaming
import CheckedCurry.Proofs.Curried.Renaming
import CheckedCurry.Proofs.Value.Operations
import CheckedCurry.Proofs.Value.Dispatch
import CheckedCurry.Proofs.Standard.Capability
import CheckedCurry.Proofs.Curried.Reported
import CheckedCurry.Proofs.Value.Contents
import CheckedCurry.Proofs.Value.Ordinary
import CheckedCurry.Proofs.Ty.BuiltIn
import CheckedCurry.Proofs.Number.Digits
import CheckedCurry.Proofs.Number.Radix
import CheckedCurry.Proofs.Standard.Calls
import CheckedCurry.Proofs.Standard.Integers
import CheckedCurry.Proofs.Text.Run
import CheckedCurry.Proofs.Identifier
import CheckedCurry.Proofs.Ty.Tree
import CheckedCurry.Proofs.Ty.Vocabulary
import CheckedCurry.Proofs.Ty.Naming
import CheckedCurry.Proofs.Ty.Namesakes
import CheckedCurry.Proofs.Curried.Pointing
import CheckedCurry.Proofs.Curried.Listing
import CheckedCurry.Proofs.Curried.Closing
import CheckedCurry.Proofs.Number.Overflow
import CheckedCurry.Proofs.Ty.Numeric
import CheckedCurry.Proofs.Text.Quoting
import CheckedCurry.Proofs.Value.Shown
import CheckedCurry.Proofs.Value.Merging
import CheckedCurry.Proofs.Value.Joining
import CheckedCurry.Proofs.Value.Meaning
import CheckedCurry.Proofs.Value.Agreement
import CheckedCurry.Proofs.Value.Comparing
import CheckedCurry.Proofs.Value.Symmetry
import CheckedCurry.Proofs.Value.OneKey
import CheckedCurry.Proofs.Value.Copies
import CheckedCurry.Proofs.Value.Keys
import CheckedCurry.Proofs.Standard.Combinators
import CheckedCurry.Proofs.Standard.Truth
import CheckedCurry.Proofs.Standard.Logic
import CheckedCurry.Proofs.Standard.Arrays
import CheckedCurry.Proofs.Standard.Symmetry
import CheckedCurry.Proofs.Standard.Reading
import CheckedCurry.Proofs.Curried.Sharing
import CheckedCurry.Proofs.Curried.Inaccessible
import CheckedCurry.Proofs.Library
import CheckedCurry.Proofs.Run.Watched
import CheckedCurry.Proofs.Run.Behaviour
import CheckedCurry.Proofs.Signature.Notes
import CheckedCurry.Proofs.Run.Logging
