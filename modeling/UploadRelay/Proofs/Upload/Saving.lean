import UploadRelay.Proofs.Upload.Leftovers
-- Saving an upload, whatever goes wrong on the way: a closed file with all bytes of the file part stands where
-- nothing stood, or a fault is told and the regular files are those of before.

namespace UploadRelay

open Work

variable {N : Type}

namespace Upload

def filled (bytes : List UInt8) (f : ScratchFile) : Work N ScratchFile := do
  let s ← Work.site
  failIf s.trouble.seek
  let written ← copy bytes f
  failIf s.trouble.close
  Scratch.close written

end Upload

end UploadRelay
