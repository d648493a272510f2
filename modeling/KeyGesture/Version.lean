namespace KeyGesture

def version : String := "0.1.0"

end KeyGesture
