import KeyGesture.Demonstration

/-- Prints the demonstration. -/
def main : IO Unit :=
  KeyGesture.Demonstration.transcript.forM IO.println
